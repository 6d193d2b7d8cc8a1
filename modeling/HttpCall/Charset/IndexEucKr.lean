/-!
# The EUC-KR index

Pointer `(lead - 0x81) * 190 + (trail - 0x41)`. Each index is written as runs of
consecutive pointers that map to consecutive code points. A run is three numbers: the
pointers skipped since the previous run, the difference of its first code point from the
last one of the previous run (even numbers for steps up, odd ones for steps down), and
its length. Numbers are written in base 32, least significant digit first, with the
digits `0`-`9`, `a`-`v` ending a number and the letters `A`-`Z`, `w`-`z`, `-` and `_`
continuing it; the text is kept as a list of its lines.
-/

namespace HttpCall.CharsetIndex

/-- The EUC-KR index, line by line. -/
def eucKrLines : List String := [
  "0EAW220420a50i10c204304706108362306204304a04104604162204304j0620420610450610a20a30430470610860",
  "8104206706108304204304304804104806204206104104208104106506204304104506104104604304304804206666",
  "20430470610410460430436480410480620420a408104106506204304b06604i04806204304706104804304304j062",
  "04208606104104604862j06204206104262306104106304108104304104506108304206204304706108606604P1081",
  "04304706108606204b04204104604304304962106404204j62806204104104706104108406604b06606j0460430430",
  "4706304604r06204304608104106504704562606606204304706264704304304706a04r06204104104104408104104",
  "304u0620430470610410460810420a50610c104108204304706108606162104304704404b62n061063041064061085",
  "08204304706108606204304706206204304304n06204304104506104104408304304b04g62j0430430416260610480",
  "6204304804104104606204206706104104604j04704r04304304706a06604706304562106204308506104106304104",
  "304304362g0620430410450610410440410810420c30810c308204304706108604X108104206106406104104104204",
  "106204304706108604162204304b06604304162m06204206104104306104104104104204304304j04j047043043047",
  "06104804r06204304706104104162504j04262504k0460430430480410410460430430470440460620420610450610",
  "4104604r0620420670610a506204304706108162408204304706108962V10620430410640610850820430470610860",
  "4j04D106204304562704604704662d04r04304T106204304606404C104962i04304304262506304C10620420670610",
  "4804304304706a0430430470610410460620430470610a30a204304706108606204962504104k62e06204304706108",
  "508204304706104104606204304706108604304c04104806204304706104104604304g04i628047043043045622061",
  "04104604304304804104104606204304706104104604j04704r0620430470420410460620430470610410460620430",
  "4162606104106206g62d0620430470610410460620410c50610410620410820430470610a506604c04C10620430410",
  "4506104106408204304706108666204304a08104404662l06106304104506104104604304f06C10430430480410410",
  "460430430480410480810420a506104104304106262104304804104804562m04304304j04304304704204804304304",
  "704204E10620420610450610810410420c20c406104104304206204162204706108304206204962304G10620420610",
  "4506104106506204206706108606204304804108304204304n08104304706104104604304962604704d62604706204",
  "304706a04304n0620420a506104104306104704b04704r06204304c04604162204304704204104606204364706104E",
  "106204304104506104108406204304104506108508204304706108606e04H106264206704208604962b04606e06108",
  "C106204304706304-104962i04862c04606204304704204104w204k04604364304706g62m062043047061041046061",
  "0620a50610830420620430470610860620430470610410460430430470440460c20610640610840410620430470610",
  "8606264304706108604304304362904608104304104506104104304206204304c04604304304704206704304304706",
  "104806204304706104104606204206706104104104106104h622047062043047044041625062043047061041046066",
  "04704204104606204306606104104C106204206608104104404106106304706206508204304706206962i04862q062",
  "04304104506206604304304T104n06204206104506304606204662904704a62904704304304706a04r062043047063",
  "04604j04704r04304962q62904606204304104408a04304304704b0620430470610410460620810840810830610620",
  "4304706108606204304204406104104304106304304804a0616210610a50g104104106204304706104104262408104",
  "30410640e30a304304706106706204308104208104104104406204304706108606204b042041046062043047061041",
  "0460620430470610410460620430850610410460616210430470620660620430426250630460620430470610410460",
  "620430470610410410440620430450410610410i30430470420480620430840810a30410620410810450610a506204",
  "304706108606204104104704464604304304e625062043041045061041065062043047061041046043043047062066",
  "04r06204304104506104108308604804104104604j06462204304304706104104606204162f0460620430850610xQM",
  "230VUn10yWf20xXf10WVn10LVn10QWf10AB110ORO310_PO310HC120620O_720pa0_Vn10M210A210SWg10820N410M11",
  "0HYg10EYf20Ad10Q210KLP320810FwM310310_B210K810w610_g10a10U510t10Vwg10IZf10Wy210110T310810110d1",
  "0110J210110G110110m10110TC210320420-H710Rw620B510G210_110Q110j20H210610W720920R510110320UxO310",
  "DNr104604j64704j6280620430470610480430ZZT210410Y210610zUg10UK_310NJ-310C110a10510110BC110GC110",
  "TD110y110CB110yVf10Z110310VWg10KGg10Rd10CZ210110h10110ya10720810410710Ty110-S110J210w220z310E1",
  "20610110110610-b10R510110s10410PWi10UWf20In10410410510410KN210720410GB610F610LQ810CL910JK910AK",
  "910M110NL910J710x_f1nGME3304704b06204364706104104h62h0620420610450610410620610MSqx10Wa10RaB10M",
  "810JAr204104104204406108606204304462306108604304d62304t0JRM2-20SLM2506204304706108604262i04604",
  "262h04f0NTU2a5R1a7Pzeh0478gh0476-ND3k06204304162606104104104406604762404704j0420TAT210410k1081",
  "0g10710g10A110f10A110g10V310410o10810g10710o10A110f10A110A110V210u10d10u10g10D210G110l10G110k1",
  "0_210110i10110510110d10110C12042082042062062062062062042048qCyS2504304304706862n04362306204304",
  "70630460480NzL230HI910KI910Y210B240pa0Q210Z330A410N420-310B220ga0R350M360z250xG910UJ920N330U41",
  "0B110P130Y210D340C310p10610v10c10G110L11fOwL2b06f62j04762k04c0xPF310k10L210Y711o11q10410R610U7",
  "10P910I210Q810X111MRos0Vw6q0R8f0Bxh10MJg20PJg10410wJg40OGV2f04b62404204104j62f0620430470630620",
  "xTF310W210B210O310k10410a10g10410T410W510H710-110S610X110310OLos0zX6q0B4f0Ryh10d20Cyf10m10440C",
  "wV220820410410470610a506204304262506108604304104104704262204u0DFO2T2bCAO2406204304706108606204",
  "162204706104104604304662904704304d0XFO2W28QAO2304606204304706104104362304304304c04562t0430zUE3",
  "60H110K1qf260Y110V1qdERE3304706104104604862704b06204304362406104104604j041-22604304h6260430430",
  "47061041045621043043047044046062043043-22406104104k62e0620420860610416460620430470610410460620",
  "43041-22606108606d62604k62e0620420670610860zPh20610640c80450610810g20430e20610810m10410e108108",
  "10I120610620410c20440640810810g20430e30410620g20430810610810810i10410i20610620410410630410420c",
  "20610810410Y_g204304706104104604304364706108604c62f0620430470610410430_Fh20410410e10810810i106",
  "20e20610810g20410410e10810810i10410i20610640a30410420c20610810o20e10G110i20610810g20410i108108",
  "10I120610630e20410410e10Y120610620410c20410420810430410810410c20430810620610810g10KPg306204304",
  "704404604162j04604162604j0470DVg10430e20e10A330410810g20430e20610o10610410e10810810m20a10610Y1",
  "20610410410g20410430a20e10o20e20I110e10810810g20810e10Y120610810e30410420c10g10o20e20610810g20",
  "610g10810810g20m10Y120610410410410a30410410GXfk06204304162606104104604304304662604604k0zyf10-1",
  "20610810g20410410e30410640c20450410430610810g20430e20610810g10a10G220420810420a20430c30610810g",
  "20430e20610810g20620610810810Q120610810410c20410410a30810810o10I210810810g20CFf606204304706104",
  "104664304304704b06264304706304j0JLf10i20610810i10410410e20610620g20410410e10I110g10Y110810810g",
  "20m20e10g20810e20610830c20410420810410810810I120610810410c20410410a10430410650830450830610810g",
  "20430e10Q330410620420a20ATef06204304662106104104606204306606108562106204304706108604c0ZZe10410",
  "410610420610810g20430e10810810o20e10810Q120610620410410820410410410410610810810I110I110g108108",
  "10g20410i10Y120610810g20410410e10I110g10K110e10810810i10410410e10810810g10a10e20610620410c2041",
  "0410e10Y120610620g20440c20610810wyd804i62g0620430410446210610860620430470610410460430410ZCe204",
  "30c30610810g20430-320610810420a20430c30610810g20430e10I110I220610810q10e10g10I110Y110810I32061",
  "0810e20a10G210Y110810810g20810G220610620g20410i10810810g20m10810810g20410410e20610810g20440820",
  "Ozce04704304262l06204364706104104404104304f0NDd20610810g20430e20610u10410G220610810g20430c3061",
  "0810g20410410e20610810g20430e10810q10410i20610810g20410410e10810C110W110g10810810g20410410e108",
  "10810i10410410e20610810g20410410e10I110g10Y120610810g10610410e20610810g20OGc804i62904304e64104",
  "604p0xLc10410e20610810g20410420620y120610810g20410410e20610450c20410420610430610810g20440c20e1",
  "0q10G220610810410c20410420a30610810g20430e20610810m30410a10Y120420810410c20410410e10810A120G21",
  "0ySb206204304706104104604462f04704462n0620430440XYb10810i10410410e10810810i10410i30410640c2041",
  "0410810420810810i10410i10Y110810810I110810810g10610i10810810g10610K220610620410c20430410410650",
  "650a20410410810620610810g20430810620610q10O220610620410c20410M_a306304604304304704162304606204",
  "206104506104662204304304706a0620430420BGb20c20610620g20430e20610810i10430810610810Q130410810g2",
  "0410410e10810A110g10I110g20610810g20m10810Q120610640c20410410820410g10o10g10Y120610810q10e1081",
  "0810g10610410e20610810g20410K220610810410c20410430a20610OJa50610410460810430410450610826210420",
  "6204304706108606462A10BQa10410c20430c30610810g20430e20u10Q220610620g10630e10K110e20u20430G2206",
  "10810g20810-310Y110K110e20610810g10610410W510K110e10810810g20O220610810g20410410e20420640c2043",
  "0810620610810g20430e10MI9i0620430436240610860620430470610410416250430430470620660460BP91061081",
  "0g20410410e10810810g10a10e50620420a20430a10420610810g20430e20610810g20430e10810810q10e30410810",
  "410c20410410810620610810q10e10810810g10620g10810810g20410i20610810g20410410e20610620g20410410U",
  "w8104804104806204304362406104104604e62604q0PA910420410I110g20610810g10a10e20610810g20410410e20",
  "e10g10610410e20610820e20410410G220610620e30410410a10420420810g20620c30610810g20620Y110G2206108",
  "10410c20620e10810810I310Q120610620410c20810e20610A110g10I110g10810QA8804304f628043043048041043",
  "6250620420610450610410460490RG810g20m10Y120610810g20810e10I110g10Y110810w210e20610810410a30m10",
  "810810g10o20610810g20410410e20630430a30430820420610810g20430e20610810610a20410410810420810810i",
  "10m20620440c70410410AN7b04f62j0430430416260420480430430470420410XS720610810g20410410e304108104",
  "20a60840810810g20420g20610830410630410410410a20610810g20430e20610o10610410e20610810g20410410e2",
  "0610810g20410410e20610830c20410410e20610810g20620e10MB7604304304706104662q62406204304706104104",
  "60620430430TH710610810g20810e20610810g20410410e20610810g20410410410a20610810c10420410480810810",
  "g10610i20610830a30440810420610430410c20440c20610810g20430e20610410410g10a10e10810810I120610810",
  "410UV6104206104104606204304706108262404k04262A10Nx620410420c20610810g20410410e10810810g20620e1",
  "0Y120610810410c20410430830e10i10410410e10I120e10810810g20410410e20610C110e20610830c20410410e10",
  "I110g10Y120610810g20410i10810810g10o20610810g20410410G220610620410c20410O_52043041045061041046",
  "06204304262506104104606204304706168604304304804a0620LG620620420610410410610a20430e20610810g204",
  "30e10810C110G220610810g20430e10K110e10I110I220610810g20410410410a20e10o10g10I110g10810810g20A2",
  "10e20610810g20810e10I120G210Y110Y110A110610410G220610810g20820a30610410410g20410EA530440420610",
  "4104304206204304562504104606204c6220410460620430480410410460420xG530c20610810g20430e1081041041",
  "0g10a10G220610810g20430e20610810g20410410e10810A110g10810C110e20610810g20410410e10810810q10G21",
  "0810810g20410410e10A110o20610810g20410410e10I110g10810Q110810810g20410410e10810810g10a10e20610",
  "810g20410410MH4104304804104806204364404204204104604304304562204404606204304c0430XL420610630e20",
  "410410e20610810g20410410e20610810g20430e20I110G220610620g20430e20610810g20410410e10810810g2043",
  "0e10Y120610810g20410410e20610810g10a10e10K110e10g10I110Y120610810g20410410e10810810q10e10K110e",
  "20610810SN330620430470610410460620416220470420410460620410a56210610410430420430430470630460620",
  "NU320410410e10810810g10o20610810g20810G220610810g20410410e20610820e20430e20610810g20430e10K110",
  "G220610810410c20430e20610810g20410410e10810A110g10810Q120610810g20410410a10410810Q110Y110810u1",
  "0410e10Y120610810g20410410e10I110CT23047061041046O2zT210Y120610810g20810e10810810g10a10e206106",
  "20410c20410i10810810g20m20610810g20410410e30410810410c20430810620610810g20430e20O320610810g204",
  "30e20610810g20410410e10810810g20620e10g10i10410i20610810g2041041A3e10K110G210810Q110810810i104",
  "10i20610620410c20410410e10K110G210810810g10610i10810810g10610410e10810810g20410K220610810g2041",
  "0410e20610810a10620410410e20610810g20430e10K110G220610810410c20410410e20610810g20410410e206108",
  "10g20430e1081A3810i10m20610810a10620410410810620610810m10410e20610u10410e20610810i10410410e108",
  "10810i10410i20610810a10610610410e10810810g10a10e20610810q10e20610810g20410410e20610810g1061041",
  "0e20610440e20410410810610810810g20810e20610810g2041041-8_FE210M310Id10Eb10Oq10-k10M810A710Ii10",
  "QL210Kf10CN510-i20Q310wV110MH410AA110UH210-J410S210GV210C310yq10EJ110Og10Yi10We10--410TZD110Sj",
  "10A910MG610Uf10QF510GB410WU610AK410Q110Cz510_BD110OI110IL310Ub10y610YI210e10yU110Sv10MY110Ma10",
  "G910QR310OL310wb10Uu10Gh10Of10Ei10YH210Ct10610UH410QK510PSD110ET310UV810wT310-G510UE110yW410KL",
  "210Ds10UF810_MC110MH210Yd10ES210Gz110-910G610CU110-G110GH110Oz110wP310W910Aj10wc10UY210KX910Ew",
  "120GU51A3DHG110SY410MIc10Sw510KW810QV110ZTB110ww210It10KM110M710Aq10G810A110wC110QO510WR410o10",
  "UV310G910y310Wt10Qs10wc10AX110Ax110Ut10C-310CV110U_210XXG110Y210Ih10Mu10yF310QO410e10U210Cz110",
  "CL210OS210IJ310Ce10A510CL210yR310MC110KDw110RVS110Iu10VAA110EC310BF210AxQ210xE-110MQ110Y_810ZY",
  "A110GZ110UI410Gq10UO210Y910Ym10q10ST410YI110-K410EIa10C410IOV110JIU110Qs10Gb10THC110Q710-m10SZ",
  "610Yf10YA110CF410UBc10GO210G_310yS210ML310ZyF110GD110-Nb10Ad10NTb10Io10a10ABc1A3UR610IFd10IM61",
  "0RCG110IY610Gyn10Twv10CW810IE110wd10EX110QE110YT210Qy810SB410GP610zIv10QHd10-210QF110KH410If10",
  "YD110EO410Su10-O210yO610PMt10C_410UN110Y_610Uu10SO510NKs10yy710GFd10YX710yT310Kj10_NC110Oi10W4",
  "10Aa10Q410Wr10o10Eb10C_110Gh10OB310Of10Ku10M310ES110y910Gg10Y410S310Gq10AP210yP110Y610yw110c10",
  "K210-g10GJ110A810Gv10O110-E110y410EI110U210Yd10WH110Az310-w110Ag10Yy110EC210K310EC110yo10LCG11",
  "0CZ210OO110Oh10EB110Ge10EH210Ul10AD310y61A3Q310Ey210EK310Yi10MF110-m10yL110An10C110YY510S910yp",
  "10-E510MT310_zE110a10C610O210SI110ON110Gp10Od10AH110YE210AE110s10w210yi10-g10EB110YP110-T410I9",
  "10ye10CM110KV210-610y910ye10Ol10O110Gf10Ct10AH110G810Cv10yFX110NWU110EZ110SZ110Aq10CH110WD210L",
  "CF110yK810Ol10wp10Cx810O_810SS810_GD110I710ww210KP410WK110Y110CD310US210MHa10MU910XXn10YJG210X",
  "FP110ZQF110Ct10a10yi10KL410CJ110WG110w110II110Mb10Ip10yJ710CK310SC610-_210wO510ZVE110-w610OC31",
  "0IZ210AU61A3KP210EA510IL310W210MT110MG110wP110WP210FXs10KR510OBe10yO510QBU110JWT210Q_410I510OX",
  "210OZ310IE110yQ210G-110Sa10SM310-w110KH210W_210WO110CT410YU110TPD110-C710-I110MRm10PHA110-r10Q",
  "t10Qx210UA310w_310QF310EW110QC110Ih10UX310Cw210UW910JPA110KD810Azd10JRo10UC110Uy310I910YU310wf",
  "10Sq10AQ310CXo10Dxv10SYg10SZ110yK710VLA110wC110Wz110Ag10AW210IJ110O410GU310I210GN110UC110MJ410",
  "ww110Cm10-W210WJ110Oq10yw110Cp10IC410W410Yn10SD410El10Ml10FZG110w210Q110U610Ui10Mo10Oo1A3E410G",
  "a10410Sa10Mo10Cm10w210KC210As10Sk10YS110Yd10SH110OG110C310Eu10Ko10M710M210M510WF110Wt10-F110-b",
  "10w610Yx110U210wI110SQ110UI110Gv10i10a10Kd10GY210CN110Ss10Is10Cl10Aa10Gr10E510YR310G710IK110ye",
  "10Ks10BJE110KT210UYj10Mz910m10SQ310RJF110wHj10YQ210KT410I_210IB110BOs10QE210AV310OQb10BPf10KW1",
  "10MWd10K310A-310yB610LIv10EB110Ac10-710CZ110W-510-710QZ310SL110IX410DZh10Exf10CB910yQ410-V310V",
  "Jn10SY110wK210wPd10-F210-H510WxP110zIJ210CQ210YTg1A3QI710WyO110XRS210EU110CC110QH510KD310--410",
  "WF210KH110m10SD110OX310UR210I-110EM110GX210ZKB110YE210AAf10SB310YG410EF710UOT110_KH210ZQc10Ag1",
  "0Y310QZ710SL310w910ISm10HzC110-t10A410-N710C-110KJ110Ms10-H510wM310yW310Ej10Oy210Oo10QJ210QX41",
  "0AyP110zDV210wM510WT510-j10wH210Mw410wU210Y310YO410Kz220Ae10WwX110H-S110VBC110-L210WF610YE110C",
  "A510QK810Y410xMn10UM110UHj10GN410xwo10q10QG110k10YF210Y810Gd10-b10410Qh10G310Y410CD110Yc10y710",
  "Ge10w810yk10IL110OV110o1A3Wj20-310wm10d10Wp10Wd10Se10U510a10Kk10Cz210y810810Q510C210Kd10e10EQ1",
  "10y610E510c20E310WB110Wm10Ub10ys10y710O210-510YY410Oj10Sf10-i10Uw210610yx210-610wb20M510wC210P",
  "Mg10HFn10GJ210KO710MW210wXk10LCu10BH210CzT220_OP210Uy310OSL210xDL210A310-AL260_GU110CHU150TBX1",
  "10WBX140LIJ210OIJ210NyD210QyD220XDR110wDR110BzK210W210FC810UyS210DZI210Ct10GR210-KF210V-B210Y-",
  "B23A3PB-110SB-120JLY110Pwo10yU110ARP250ROV210UOV210LyT210C-310QK710ACc10yRy110VxP210CQ210MC310",
  "ATa10Jzc10O710YF110Gb10HZ310v10ZS410KIT210VxP210Kx210Se10yRM230RNC210UNC260NWP110QWP1b0_XE210C",
  "YE220LYx110G_610BMn10KFM220B-x110E-x120TQO210WQO280PGP210YTn10TKh10KZa10EE-160TFy110WFy120ZRO2",
  "10SK810Lwc10WXd10_Za10YBl1A3ZPq10w710A910QG310Um10-q10-I310CG310-210UJ210Kj10QJ110Aw410EQ110-i",
  "10As10wO410Os10AK410SC110_Jn10GQ510Yx110yD110YJd10xPt10Ov10wG510UR110Gv10UR310U710Eh10Y410OD31",
  "0GF510Un10IY110EE210Ik10G910Ky310XIj10AM410CA310WL910yE110ZUt10EP110M510UA310Kw110OJ110EE210MJ",
  "610AW310wN510KTb10JAI110KK410T110Sr10MO110Ia10Ko10-k10-K110wK110EN710OE710CJ310wC210Ez410CF410",
  "LVB110ED210Yf10BK810yu10A310MO210-h10E210Ox110E510M910K910Wh10Ye10Ui10KF110Q710y810YC21A3Mb10S",
  "s10MR110S410Gb10Ah10UB110yN210w910QD110U810Sy410Kw210IU110Mg10K510Wr10C110-310Ua10AF110SS110Mm",
  "10TAm10ID210EF110U410Mc10W_110YF110KC110OL110KO610NNp10yB410-J210O910Cc10yy210EJ210Wa10CJd10Sx",
  "510LwE110IBm10Hwl10-M110C210Qg10Oj10WZ610Uy210-d10-810-D210yF110AE310Ov10ET110-A310-W110EC710R",
  "SA110WDa10Ks10O310KE710-O210YK410O-w110HRW110Cz110MB410xxt10CVi10Ud10Ow610y210yp10LHp10Tv10YL6",
  "10-W310GL210yM210WJ510AS210GC310SQ410RKC110-G610KWL210DPB210YR41A3UL310Wn10yj10OZ310wMU110BEG2",
  "10yx110KQ110GY410YN310ASw110F_T110OI410wWP110XNV210GP210-Yb10s10YS210wt10EBa10C_b10DzF110OVu10",
  "FFp10KZ310O410U-210KN210QF610SF110CT310OZ110S510HPj10-Qf10OE310JVk10wE410GF310EZ210Sg10U610GR9",
  "10YV410PVA110OY610GJ110UGi10FFp10S-810Ky810NLj10Ql10Gm10A610QLb10Ap10wJ910610M310QY210GG410SE2",
  "10IL110RBB110Co10yr10wk10UK510EI110Ad10OY110KR210IS210YS410EL610OE110UY610KL210g10wC210O310FDG",
  "110WCa10CL210MK210yQ410ODb10A-310Dxq10A710GS110AA51A3MC110AU110WW410WH110-H210QD510wf10OS110ZY",
  "A110U510Y810SGd10Yx110U_b10R_k10SL310YC310IB210YH610RM410BJi10E510Gy310MGR210JKO210Ag10EG110MZ",
  "910WX310wG210I310Q710Qz710MB110EM210E510Ad10SU310LzH110YBg10OA510MAc10GQ210RzB110EIT210PNK210Y",
  "310-A310WI210Ub10Qv10ON210UR410KA310M510GZ310Mh10wC410wD210WI110W710R-i10Gf10CC210SC310WT710WX",
  "510I110Zx910N_o10KC310GC410AQ410QK210CZ310yB210ZVn10OQf10UD110QG310Q_910Q110U110GA510BHE110IF1",
  "10IR510QO110GM310KD610IH210Wm10wJ410EL21A3AY510WK510MG210JLD110Sm10CC110Cx610Oy110Kj10YS310IP3",
  "10Qg10OO310UB210YK510OG110DyB110SU910CC110Cs10wY110Wl10Gn10U_110O510Sf10Wc10OE110CM910ET610BPD",
  "110CM810UEq10DOD110K910yO610CN810yy710EX810zZn10Sr10GN310UUI210VNR110HxB110Sxm10zKn10v10EZb10y",
  "L810Ew110GD310II910VJD110-E110-m10O710-f10OV310EE210OK310Ul10IM210KR210O710yg10w710-NC210_XB21",
  "0UI310wQ110-310Cz110MU210E110WO410810ER210OO210XwD110CWd10EF110QM110EW810AL410S_310Ix210QE110P",
  "Qr10ID310QG310Kx610ySa10TOf1A3-J110K510En10RCc10CA810Qo10UM110Y210IMg10Qq10OW110ZNB110OH110WM8",
  "10YH910-A110wN610BIB110MU210YN310Sw110Yn10IB110Wt10YS110G910GA410Y210Qj10WT310yI610Oe10QS110QN",
  "310ED510MP110zRD110wZ610EH210AY210yFb10CG310AB710RNE110GO510IF320EU310OJb10Eq10yT110S910E910CW",
  "510Wn10xMs10yu10Sd10yj10OF510Gn10We10UU110KZ210CB710EU610Y210yZ110IM510ZDd10EY510Ey410I_110KG2",
  "10LUB110IL810QQ310Oz110F110wS610DGp10S-r10LEs10Q410Ij10AAb10Wy110AH510Y110-J310w210MXc10GV310_",
  "-n1A3YEb10XWp10QG110A710CZ810-810UI110QX210AC410Ed10MY510Wq10wN110Uy410-i10YF510DHa10HNs10Iu10",
  "wk10OO310OH210QR110GS120KD110Ei10CF110Yq10s10II310410Au10OP110Ga10YD410KK110S410W_310Q210Im10H",
  "Wi10QW210Oz210OI210Q710AO110GWh10TCp10Gh10_W910IA710GXe10TSo10IS210Mg10MU210AP210KG110-j10OM31",
  "0CP210Yw310AA410CF810zEA110ER510Gy110w110-310wb10Iu10Kj10SX110wA110K610MV210MN110Mm10SO410Qz11",
  "0Ie10QG110ST210YB110QG510UD310RLC110ADD110NMH110wv10wC110Ih10QD81A3-O310IJ820GV110YC310MP710-m",
  "10_-B110MZc10Iz210L_e10OC310Iq10wg10CA110E610YX310Yo10wa10SN210g10KM410UW210WR110S_210OY210SO2",
  "10UW310GZ310ZDB110-_110O510y910Iw110Ya20KB310yd10AL310U210QB510Gxb10xys10MVl10I_110FLs10wf10GX",
  "710Ek10Ga10EI110IQ110EJ110MP310yd10MP310Cg10Mo10-W110Ya10yU110OG510yQ310QM110ZIF110MB210G810s1",
  "0CP710Am10Id10C910ED210WS110UG110KJ210Om10yc10Ec10Q110It10W210C310UB210MO210Ix210I_310yD410wd1",
  "0XCD110CB810Ct10-X410wi1A3WS310-Ub10M-110Cb10YI410K510_RF110U610wL310yF110AI110-B110Aj10QM110-",
  "P110W710g10Q410Eo10CB110MS210GA510YF210SY110Md10Wa10Q810yu10Wu10yZ110we10-Y210YY210yV410FYH110",
  "T110AXU210TWQ210-Z310IU110Mb10wz110IN310MN110Uw210SA510s10UB420I210Oy110SE110IC110wR210VTD110C",
  "410WK710Ix410G510WF720MMi10FOu10Sw510-V310W610MZ110U_B210FSz110EQ310Ma10GP910XyE110-Dm10CC210K",
  "Db10HyB110KC610-K510SY110A110w810Iz210KR410-T310xCb10KW310zTh10wo10SD310OB610-x210AB510-q1A3CF",
  "110AX610Wy710Ol10YCR110NAT210Gw510SIm10yB210e10Wd10JGv10AYi10IKi10-L110zOI110Su10Gn10MO510YB11",
  "0Ow310Y110Uo10Cg10y-310yE210Ic10IA210Ih10UEa10S_410Qe10VCF110IE410A110Ky110QH510OP210Yq10Sm10G",
  "g10OG210Ok10yL710GP210O310SE110Qx110JAA110Ms10WD110Y410OD410MB210IW310EI910U-310Mr10Ku10G_110-",
  "710Gx210410UG510wG110LOq10LLc10Eo10CV410QL110ye20OH310WW210WC410Ka10SI110AA510CM310MB110AS410A",
  "L110CC510LOH110Wc10Oh10M910Ct10S110Or10U610AV110Wk10Wj1A3If10W110O510AN110UMN210_OL210CQ110A31",
  "0Oy310Oj10CZ110AP410Sh10OP110UB120S410Ma10S510Ah10UF310wJ110M410K110S710M410yS110If10AE210Q210",
  "KZ110yQ110_yE110Bh10GC110WE110-D110Ca10U110CJ310Kq10Uc10Ew110yG310YJ210Yw210Gy210K510w310CZ210",
  "KB510-C510OHR110XAV210Yx710Q610GU110RZ210E-410-s10Ew710Oy210SSf10NVH110II110YH110K110O210ED310",
  "-d10KC210WC110Qd10-b10A310OR110Ov10AC110wC110430Ae10ALG210FTC210Ks10QB110-710Ik10610WK110Qk10M",
  "B110Ic1A3S910I810AD110QS110ys10Ct10Gb10-k10yF210KE310wn10AG310zIE110yH210EE210AC310OS210Yf10wq",
  "10KJ110I210QE110Al10UPc10Y210QW510TKr10MK510CCa10Swc10HxF110y310A110U310K610410G410A610Ai10GP1",
  "10c10yg10wd10Qf10AB110O710-a10Ut10u10k10-u10Q310ym10I810WU110ID110G110OE110a10Eb10yM110yh10y31",
  "0Yk10Mu10YT110wL210Yj10410A210C610QC110yi10W510IR110Oo10Co10Gk10Mv10QB110Cn10s10-b10-r10U810OE",
  "110wf10EF410Ge10yL210FFG110-RT210JFJ210MFJ21A3DNU210Ep10OE510EP410EP310KX310Sl10U710U_210KQ410",
  "YN610Qx210RLE110WBb10QS310Iw210WEa10_Zr10EWV210DCJ210Kq10SS210QIa10SH110GV110HHi10UY510CJh10wJ",
  "310JKF110wK110Q110A510OC210I610w610SS210Sd10Oc10Ql10E510M110E210CD110yV310AB110O_110K-110610A8",
  "10QD210wG110YE110GC210-R410Cg10-710yu10w710yD510xLv10-Fe10AEc10LTr10KwR210VQ_110CM110AV210__71",
  "0wK110c10QEC210HF_110HJh10M710CM210Gd10O210Ud10Kc10wD110we10ys10Ik10Q410-110yh10Yd10yY410yt10A",
  "R310AA110Q610Yp1A3Gn10wi10wZ110Az110Ih10UY210OM110S-510G510VAD110Q510AM210-K110QT210-510wh10AM",
  "210Kn10Up10IJ410Mb10wB610KQ610Am10DFC110Cv10y710YD210OY210Q910IK310OT110w410OG410WU110II110G41",
  "0G410Q310wq10yT110AD210W710Gl10Et10S310M810C-110Et10SI110yW110KJ110SB110Ip10QS210CG110LEE110SO",
  "410GQ610AX110K610Eg10C-910-Y110Aw110Ef10w710AE610wH410LQG110QFa10SP210IO910QW410-Q210MH410Ud10",
  "_To10YG410KG210AYD210_ZQ210KA110St10WH210Gd10Mh10-A210A410UM610Ad10EO110M210WG21A3UO210Y110Gf1",
  "0WT410EP310XXB110YM210AJc10Kq10yO610Ij10Ov10-D-110zLW110HMs10GE110EC110IW110U510410Ct10yF210Gk",
  "10C910SB110MI110SA210Yc10Oi10An10K810yi10IV110S610110W810QP210-c10W410Kf10S110G_310C410U910wC2",
  "10Sz210I510I510EA110-T210CE110_FF110KJ610GP510ED310yQ710wu10UI610AA110SQ110HLq10EJ110AB310GLg1",
  "0YZ510KI410TVi10X_b10-Q210IO310AG310CEe10O810WV210WA410JzC110STT210zRE210wD410QQd10LS510OW410R",
  "-A110S-110MC110wd10Qa10Wn10Ks10Mc10Gi10K110Km10YN11A3Yg10y310wj10I910Uh10E410CM210Cl10Ua10Ke10",
  "QB110ML110Eg10-810-810Wa10In10Wj10-F110O910G910-s10Md10w110Kb10wj10Wo10QA110-l10U410Ah10YK110U",
  "B110Ae10Qw110Ug10C410Se10Ui10G210Ez110Y120y210U210Qg10yo10wj10O410LUD110UK210W910OF110-410EB91",
  "0So10KE110EI110Q910Yy510QX110XBj10Mq10G210Q910Uw210MC110wl10Ie10Mj10Yq10yb10A_210WR110ya10Cw11",
  "0Os10-A210Sf10Ii10Ir10-610-P210E610GM310Op10QO210yq10Pwr10OEj10wZ310KH110xVq10A21A3E410MPb10yT",
  "610Wy210FZb10NN610INe10IW410Y310HVt10U310-I110Mv10U610QT710QY110EGc10YZ410SF710BND110YY110wR11",
  "0KZ110Sd10Ip10M110110Kr10-g10Ej10UX210E710G110Yn10M310QS510MM210Ql10WI310-M210S310SM210Ad10610",
  "Q710In10K210LIq10A-110WT110Am10yH110AC310SI110MM110QS110yE510GY510GA210Mw110C-410-110LyE110S41",
  "0A610UJ210Kw210Qp10IY210IH210Qb10IZ510OT110WC210Kz110WB210K910Kr10EB110I210Kj10OQ110CK210Af10M",
  "zU110XwU110HJr10GH110E410GK210_J210E210Qx110yL61A3CPG210BYF210UB110-Q210KZ610OE410LDu10CI210ED",
  "T210TJR110TMl10BXe10Mi10yo10YA210OM210GM110SS210QE810IG810we10IV110Wl10Is10EC610M810yE110M_110",
  "I510FVC110SK210Ug10O810wJ110I310YM110CC310GC210wNh10EF110UP210Ey110OW110x-B110-i10CF310MU110Sv",
  "10IP710KYf10Yc10Oc10WU110x_q10AWi10Uy110CP310NIA110IX310wi10-d10E-310Kx710Qw610Gz810HPu10S-410",
  "EB810UFl10PDH110yD510CO310YC310QU210IG710-Th10FZE110wi10GQ110GV210KA210Wx210SN310yN510C_410UBa",
  "10Ya10_xB110QP710Uh10YB510QF810CU110EQb1A3DVm10CFa10GGf10W610VxH110Yt10Wn10MW310wz310wP110UT21",
  "0UQ410Y_610yTy110LwT110ZJp10IEN220DH-110C-210Uo10Y410Ui10QK410UOV110PAV210SAV220JJQ210-F110MR2",
  "10CY110yj10K510Wi10EOJ210_CI210Sd10QO110MP110Wm10MG210W310Mw110wb10WQ_110B_y110E_y110PDY110SDY",
  "110T-W110wC310wL210CQR110HHQ110LAB110wJ410WB310KU410-P310Mw110QP810-Q710wq10EB210PGH110EL810Wd",
  "10Y_310STb10FYo10w-310MT310Gw810OPc10Uf10xXn10UJl10XBr10Ek10QX210AJ110KG510AF510zE810Gy510N-b1",
  "0xP110Cd10MCV230z_P210AAQ21A3210HCH210yf10OSG210zMC210CG210-GA210xXx110y310If10MA610y110SCV110",
  "xGQ110-GQ130FOV210IOV210VwQ210UZ310UJ310QXJ220B-B210yM410MP610yBX110NYU110KF510LxB110Eo10Ct10O",
  "210Kp10UzO210PJN210SJN220_DL210J110MFL210HFI210UU110Q310-c10a10E610-h10yHF210FLE210O510G210UDE",
  "210_yD210E110-xD210JUA210A210MSA210_B_110yG110Gxz110NWz110QWz110TUY110EJ310SLV130zTT110AUT110J",
  "KO110MKO130RRM210AQ610UBG210x-D210--D220_-R110HAB110K_S230BzI210EzI210NRE210Ea10AQ110ME710Y51A",
  "3INx110V-R110US210QZ110Rxr10GOJ210L-D210QI910-Vw120xVQ210-VQ220F_N210Sr10WDN210XYJ210y610WO110",
  "K310UI110Wb10Gk10Wg10S910C410I110Ci10-810Cp10wDD210DVC210GVC210TNC210Iv10MY110KE210YRz120zLx11",
  "0-W310yW210G-U110RGT110UGT110RJR110UJR120DXV210Qu10WYU210ZwT210St10ER910UX210wV110AU110KH210GO",
  "110YE410-S110K210IxZ110DOY110-o10Uh10ye10YUW110HQT110KQT110JKR110wf10XXE110S710Yb10Se10MJ110Mf",
  "10l10Oq10QI110Q510wa10Ib10Ss10WL210URM210z-L210YY110Sa10K610GE110Gx110SV11A3Yh10wd10Mq10WC410W",
  "Y510YZ110yY810KN110XLB110QD810CM310K410CLf10zYh10Ux210Ur10UE210Yw110K_310TMq10KY310Y_510wC810O",
  "210Wl10CV410IN810QD310OI110xSl10AM310Gy220WT310IP210-910GK110Dzn10Gk10u10MQ610-510GG210ME310U6",
  "10S110WG210EV210EA110wi10w310SE110yK410E-410Gu10BSo10_W310UH310-o10CO210CS310xVh10Mz410OW810II",
  "610PNf10MF210C610QVa10UC110WGC220LNU210Ih10MD310yf10S610I410WA110OzO220VBO210KT210-j10w710W610",
  "AMK210DOJ210GOJ210NXH210QXH210ByD210KG110wVC21A3RT_110O210QZ110O110Eq10An10EFy110FzY110Ep10-p1",
  "0ST210UWU110FUU110EN410Hzr10Ix410EE110WK810MQ510YI310_zv10Yd10Ue10Aj10AQ210Ec10AT110-P110UI110",
  "GF410O_110Wd10-410yN110yM110Mc10810OU510KM110Cp10CU410UY210U410M-S110LTV210Gc10Ki10Ib10yJ11061",
  "0Q210IZ310Y410C510MP210Q610EH210OG610Yj10Sa10EI110yI110C410Q210wU110OL110yM110UU110S810IW410K8",
  "10ya10Kf10WJ210G620FBC110CJ610MI310I410yv10wS410UN410WIb10SU310RXE110ITV210FXH210Yk10E_110Sv10",
  "-I710AK110WJ11A3QP510UE310w510Sg10BO910OBb10BKG110UPh10UTi10BYC110YF110Ek10ED110110C910QP110S2",
  "10-f10KG210Oh10KL110CJ410Ib10Sj10y110Aw110-g10Qh10UH710Ax210IM310Wh10MWU110HWR110Mv10GM210FBr1",
  "0EIj10IN210BRB110Yf10K910GJ110YZ110OM110w210QA110OW210AS210wZ310KA210SB110Iw410IN110WU110Q510S",
  "d10AC110Yf10wb10Uu10GV210MX310IY110XNG110yh10Co10Q510wFU210PJS210U710Cz210W210ON120C410Eu10-31",
  "0S220WL110In10Ct10-LJ210H_I210c10--I210PGI220OV110y610GKG210DZF210GZF21A3T-E210KV120KJD210_WC2",
  "10Kd10YJC210VXB210YXB220DC-110CF210UD110wJ210Gs10G410E110GU110E110QA110n10Y310-c10A810Kq10EGT1",
  "20PyQ210SyQ210z_G210MLa10S210CSy120FJU210UC410yM110YZO220DHF210GE210wT610GC610ANW110_xT110QX11",
  "0SES140XVy110BHf10yA710YU610KC510-EZ110XDR210SM410yd10AH510OQf10Ey310CD210PFE110My210Yyc10EUb1",
  "0GU810Go10Wf10PRq10wQ410ywh10HLv10Y-710C_f10-De10XFH110w710Me10YJ510GX210Af10wO110SB210AM110Yy",
  "410EF110My310WL110WS110YG110Q610SF11A3Ib10WD310zRB110S510K210GNV220NKQ210Cb10O_P210Z-N210Si10A",
  "410Mc10-xM240JwD210Oq10-_C210HHC210w510QBC210T-_110W-_110Tzy110O210C510wF110A710MJx120VSW110j1",
  "0Iz110EWU120LPQ110Q110-NQ120JxE210GJ310AQ410410A310yR510_Fu10e10EU110wm10wHT210_SS210GC110WR11",
  "0Us10AV110Qb10CK710AYF220JI-110Wy210WLx110ZVZ110U_110IWX110HIR110k10WHR120F_V210Ul10I210WX410Y",
  "O610wL410MZg10QX110SA310xLF110C_410y910-410QG310GxM220B-_110E-_110NKx110IX410xVt10-t1A3GLT230X",
  "SV210YZ110YO410UWj10V-p10MW110yG110CS210M310Cl10e10a10OQ210Ke10GY610ys10Kd10QB110Cn10yb10YQ110",
  "UG210UN110Ku10yj10-u10Eb10KS210St10KA510_WD110yZ110Ey110-O710w710IF510Y310wn10QY510AN210-L710I",
  "X210EL310BAB110MX610CL110E-110IW310ZEd10UB510AL410SF610M710YA610MK710HNE110-c10SE210IR210O810I",
  "310w710WJ110YC110C510Cb10OF210MS110Ia10SM110I810S610GD210OQ110IxD210TKD210Wj10KF310Os10CN210O6",
  "10g10Gq10Ee10Ob10C710W310yQ110MD210SJ210Wy11A3Ki10zQC110YT110-F110QI210wJ310GQ210we10M510Uw210",
  "M910Uq10Iw610AK510A-110QG110EE810610BSm10EW410yT710wE410FzB110e10Iu10yU110AV210KM210AC210AM210",
  "Sv10Sa10OJ110Ym10-L210C510GJ110W_210wn10Ex210Eh10y510Aq10IG210IF110Qt10Ep10-910MB310CJ410XHG11",
  "0Oi10ON310Ce10MJ410wh10-X410Az110OTD210NXB210Sy110yc10Ej10Cv10Cq10YZ110Ax310-p10U910w710y710Wo",
  "10u10A710QW110xIC110O310Sj10Kb10A110Kd10w110O_210W110Ie10QK110w410MI110As10Kp10G-210Yw110S410S",
  "w11A3wp10EN110Ah10g10S110Ci10UN210-310E210S110SM110-z510AN210m10MP110I510-810Sg10AN110-l10C110",
  "Gb10NRD110GC810y610CM510WQ410MG210Mf10Mr10LBl10yV410St10CK810Co10-z510SHd10wH210AV110RTt10Kd10",
  "YPh10JXs10I910Q110-q10S110Gz110WX210Ot10MK110w610U410U810Ik10KH110KA110K310Q510Ua10410Mo10Um10",
  "Ci10Ud10wd10Ao10Q210O310-310As10G810wO110-610wj10CC110Yi10Og10w710E710CE110Ad10SL210Wx310Qe10I",
  "r10-I210w110y810y810M610I510M-110A51A3c10Ma10YQ310PNG110W510WO110QK110S_210Eg10wm10IU110-N210A",
  "T310yY410-r10CK310w-110GU110Wv10YU110SU110ON210O310Ea10-g10yP310XXH110Qn10K810yd10SY110EO410O5",
  "10-D210Gi10Yh10Q510Sb10110I210Ao10U310Mi10QR210S510Sv10y710K410AI110AJ110YB110810K810C410K710E",
  "A110Q410K610Yi10OB110IX210Sa10Ax110W610UN110Qe10-p10w410Mn10QF210U910AB310LRr10QDb10Yw810AB310",
  "VGs10Eb10PL410OY710IE810LPh10AX510OA210Eh10Wb10UW310IQ210KF310AA310IR110U510K910UT11A3-L610m10",
  "SU210U910PMC110AA410MJ310Cc10II210-De10zSo10Ih10A410Wc10GY410OOj10TFm10310Mp10CV110UE110KE110Y",
  "f10GY310Id10Ac10S310yL210U410Qh10Gk10Ui10SS110Oq10KM310Mb10U210M710wH210YL210AW110U410WO110Uh1",
  "0Sa10yf10wh10810EP110YY210NNf10Yq10VNm10Oj10Kc10EA310OC210Yg10yV410I-110wR110Yj10Ml10Ai10GG210",
  "IX210-T610-_310I510MF310IT110xPb10HNq10Kc10IVs10OY410_Ev10yVb10_m10MN110SDc10Xzl10AP410AX210zA",
  "210y-610ID210Mb10WI410MG310CJ310-r10ZLv10-Z21A3Cc10KI110A110OJ410US110c10Qm10Ac10Sb10E910Gi10M",
  "110-w110yf10U310EJ110SL410A410Ii10s10Ey110SY110A610Cf10Ua10U110CG210IX110AXX110PPW110Ub10IL110",
  "xXc10KS110y110wB210GC110_Wl10wc10CK110UL510Gf10OC110410EC110yi10Su10Cq10Yo10YR210W910S310Ub10y",
  "510Qi10w310w610WF110GC210I110yz110IT110QW110Gq10OJ110UB110Kc10E810WX110ML110A110I910FYD110wG21",
  "0S_210-d10AV110KD510QH610Qf10WC210Sa10CR310UU210w_210Ee10CC110xEl10Mn10QOJ210LAR210AWb10MI710E",
  "V81A3OM210AN110BRr10wD110EZ610_Wg10Io10O810Uw110MB110AZ310-710GT610G410OW610-M110IG_110JxV110C",
  "810Iq10JSm10Kf10EQ910IU110WKc10Al10WO510TLt10-P510OD110EM110E310U-210yk10AH110_s10Mu10EQ610An1",
  "0GX310GJ210Y310FRD110Mw410OQ410OE110CAb10BEm10MN110ML210-N420Ca10Ex110wSa10SL810810ZYt10Q110IF",
  "110YL110WQ210IK210A910Is10UC210ya10U210Y610WS110OP210y610I-110WQ110EH210MK310Ai10wn10Me10NAq10",
  "WT310Az110Q210CY110QD210KIa10-Y210OC310Kk10MK610y210VGA110WGb10CW91A3MV810POt10O_310EQ310QZi10",
  "RDr10G-U210VwT210M-410GU210w910Sb10-B110Gb10OS410IV310UO510MV610-_310Y510XzD110IG210KF110CZ110",
  "IL210QO310IA410Cj10UZ210WO310YZ310WY110yT310Yi10OG110An10U_110A410Kq10xyC110UP110I910GD510WO21",
  "0IO510YC710WW810y210QO210XWB110wU510QK810wj10AS310AK110EI210O210KB710S410HKp10Aq10QF210CW210WN",
  "710QT110Cu10CX910Au10MF110zBo10CY310IY310KI910IU110UQ310MI610KI210UCP110ZxT210YLa10MJ310Ul10CP",
  "710MQ610QU210A310MH510NLE110E610SG110YK610Af10O510Oy21A3A710Q410Wd10wF310I910OT310Ia10q10Ic10W",
  "310SI310Eu10w510I710AA110ST310Gg10wz110S210G210V-A110yQ310YRd10U-210SS710QP110__m10yz110WX310O",
  "Vk10LMu10QH210WZ110-K210wd10-N110wzc10GD110KL210yV610Jzm10DAa10QG610Y-410HG710CC510We10MW210U6",
  "10Ma10wE210-E410CR110AP410ym10MK310SN110KF110Kh10S310C510In10g10E810CU110WV110Ot10X_G110WUj10C",
  "A210wp10O510Q710KG110MJ310KZ410W110I810Qh10V-k10UR110IQ510REh10ITa10ywr10NZG110WJ710ML610YVd10",
  "W610U110Fyj10CQg10yE11A3EQ410zSs10G610Wv10EA210Wv10SFa10MV710U710Ya10Oe10Mx510M-110MN410GZ110x",
  "XG110_q10YN210WV610CT610Py810XN610Y910Ay210KP310Mo10MA110-C410OC210Sg10U_110MB210A210w610Sx110",
  "-210yX110I310Gn10MI110KL210GH410ww310UO110-Z210VQG110y710QCD110FU710Nwt10-yc10IT310BVf10wC610G",
  "x510GP210Af10GK310YA210Mxc10-p10Px510_z610w410LEd10JR810yy210U910AX110Of10WU310Gm10G810AG210-B",
  "110AOc10WAa10CX110Y210BxE110OS110Cv10QD110KIR210RwL210UwL210_RK210So10En10I-310y210GD210M110-z",
  "a1A3CC510N-v10Kr10Am10E-310EF110Ix410UQ210K510yQ610UN610VSo10Cyj10RYe10MW910KT410wG610LFq10Sz5",
  "10yY210LC710YH110yF810IZF210TJw110ZBq10IK110UT210MP310Wi10WD510Ue10A810yC710Ax210MA110EP510UO1",
  "10CA410GVQ110ZTK210wN510FR510G710Lx910EM110-Q110-Op10zKk10OR310-YI210TCC210OX210-B110SK910HBs1",
  "0My810Gxb10Ww310MN310SD410ByD110-N410K510SO410UXm10WR510Zys10YR810wVh10JHv10KO110yw110MJ210GC1",
  "10w410wH110WW210Y510yO210UA110y_110GU310MT110yS510YD510F_C110yR210wD810SM510WJ110Myb10wP110WG1",
  "1A3SB210zLC110EI110-V710F-910WZ210EZ510CM210IU310Ie10wM210Cb10UR310AX710MR110_Sm10CC810Wm10-K8",
  "10TJg10zU810A910E_810MA810AY410CC110CA110IG810AW310YG110FW610XUq10SQ310wT410wFe10QE310JDr10MP3",
  "10wU110-710Q210SH310OTd10GI210YE810Ed10FRD110wx110g10410On10I710SA110AQ310GB110KI110M110Ia10CL",
  "L210JSG210K810WE410CI110YK410C510-q10Go10C510Wz110K810SP310-N110GB310IJ110XUu10-G410S210IT410K",
  "v10CAE210DBV210QI110wO610Su10AA310MM110SO210A-210MI210AQ710CB210yE610510-n1A3DYC110yVi10XM810I",
  "wg10Gl10yF610Mg10DDt10-S110OQ910Yf10w_810Iz310Gy210RQB110GA610S810OQ610AQ310Mp10S210Wx210Qx310",
  "-Jb10xUF110w-A110BDB110Uk10CF210SW210Sx210QW310GI310Ew310ES710--110UV210AZ110yM310OP210HUB110O",
  "K110QNl10IM210AK910D-A110MJ210K210IW210MG310WM110C810O710WT710W910Cwa20yb10Go10BWC110ENu10NUu1",
  "0yC110w810Wa10O210CTa10UP110GC810yI210MD810Wz110EA410BHF110Ac10UAh10EB810AM710A310Q810TxD110O6",
  "10KO510Qf10CR110WF110KE110MN210Id10KE210Sq10SQ810Gm10-o1A3yzx120HAR110_VE110Ar10yF210AO110Os10",
  "-A110U410KB310-w310AA210YK110Mzb10Uu10-810K710WZ210WW410Wc10T_D110UXa10DCc10EG710ON410Q_d10KQ2",
  "10Bws10MW210wJ110QTe10-Se10UO310Ug10y410E410LUB110YE110Yxm10Mz110zHk10IU410KI410OVd10VYh10GWl1",
  "0ww110DQA110WKc10WWd10y_410JZD110AS610ED110EN110GG210AJ310Ay110SN110K310K410WS110I210M_210-110",
  "Cc10IB210WB310QxY110PSW110OW210MC310xRu10GSf10Yy610Cy710JTu10XO510IX110U-210-x110CE310WD510AY2",
  "10YA710410WJ110wS710CW210PYE110YJ110wc10UX21A3Oz310AW610YA110Oj10W410-510Ge10OF110A810CO710QF2",
  "10-b10Ow310U910CQ110KA310TDE110S-610So10O810YU210MKf10CP410KW110Yz210ZTE110I410U-210SF210K210G",
  "810QT110EH110-Q110E110Ey110w510IY210yn10M610O810Ea10Y910Y410i10I710GH110Kl10K310M810Gr10SM110y",
  "W110Il10GM110Ks10Ks10I510-o10C110Kh10GA210Gf10EU310IF210K610HZr10Kk10CWn10ZRr10Kx510Q-310O410C",
  "A310GQj10JUt10wd10KDd10VEj10IF510MU610K710O510yw110wC610IX410GZ110-S910JCF110Mn10SH310KT710CD3",
  "10UQ21A3QB210C310GP410yj10EI310Ad10Om10YM510OJR110NRK210O310-Y920Ar10FDm10EW310Mx110MF110KN110",
  "QC110QT110MY310XP210yu10My210YU110WU110QF410YX910K-410Yr10TOn10Mp10wG210GQc10SY410TzB110YF610Y",
  "l10Ka10Sa10U310Y110OP220CW110YR110yp10U610S910Uu10AV110Wu10UT210M610WS310KA210UP410YD310MD410H",
  "ZF110-w110wB410-810Qd10E310Gm10-G210w910SZ110EV110As10Ec10UP110AQ510IV110Mn10Aw110Iz110YB110BE",
  "t10-Og10Xzb10KN710SZk10LRv10Qp10ON210W-410w310Ik10Mt10yO210S31A3KH210SH710CM810QN410xJF110U610",
  "CY110I710y210wk10Y310UH410wk10Cx310SC510OH110QCe10TSu10Q110CX210U610MDc10W810Y610Kx910GG210VYh",
  "10ASf10BAo10wN810MM510OO910POo10AF110QCb10PG610I610CD210WJ110yL510Uwc10YC210Cw710ZwH110SSa10CJ",
  "610WJ210CQ810FAj10UOl10UK910BLG110-a10Eh10yCd10Ey910Sze10XLs10yQ210KX210wT210Dzg10MH410yIg10-Q",
  "610LPf10w110i10xQb10QD610wM610QJ910GD110DTo10Qg10yx110-c10E610-R110wh10GQ110wY110110S910wC210Q",
  "810GL510A220we10AQ310S510Ex210yL51"]

end HttpCall.CharsetIndex
