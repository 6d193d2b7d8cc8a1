/-!
# The gb18030 index

The two-byte index of gb18030 and GBK: pointer `(lead - 0x81) * 190 + (trail - offset)`,
and the ranges that give four-byte sequences their code points. Each index is written as
runs of consecutive pointers that map to consecutive code points. A run is three
numbers: the pointers skipped since the previous run, the difference of its first code
point from the last one of the previous run (even numbers for steps up, odd ones for
steps down), and its length. Numbers are written in base 32, least significant digit
first, with the digits `0`-`9`, `a`-`v` ending a number and the letters `A`-`Z`,
`w`-`z`, `-` and `_` continuing it; the text is kept as a list of its lines. The
ranges are listed as they are: pairs of the first pointer of a range and the code point it
maps to.
-/

namespace HttpCall.CharsetIndex

/-- The two-byte index, line by line. -/
def gb18030Lines : List String := [
  "0EAH110430i10610a10g30410610610a20410410410410a10830410410810e10810410620e404204606104a0470410",
  "610c10c20410630a10e10a30610440630k10810620410g30810410820410830410610830410410410470620c50c208",
  "10410a20630610410410410410410650420460c10410410m2081041042042062061044061063063061041041041042",
  "0420430410420420410e10410650490430840430a50610410a104104204108208104104404104304d0610420410430",
  "8104204104306108108b04104104404306304106504404104804604906304208404204404l04104108204504706j04",
  "604304b06408404104504a06304604e04t0810a10610410430420830410450420420420a10610g1082082042062064",
  "0420810410630410410650620c10830820430410610410620410490410420620460410410620410610e10c20810420",
  "620630e10420430430610410610420420e10410c604106206204104504104204304104106404204a04104106504704",
  "20470410g40e308a06304304104104404104304104604404b04806308406104404106408106204206104204304304a",
  "0820610410410410a30610810820410410g10610410420a10810610440420410820410870420410420410420610610",
  "640470440430410650e30420410a10430620a10q10c10830410610410810i10830410c10420a10c106106206106104",
  "10420420410410640410i10650410410410480810a20820410410410440610810410820810450610i1041041063042",
  "0410410a10410a20m10410610a50e20630660410610410440610450820460440410820420410410a10430440410610",
  "410610420650440650440420a20410860a20610410c20c304104204306206104704904104104104104104106506304",
  "20630a10450610410410a104108204206104104506106606204106804204206306204406306104104204104304c085",
  "0420820450410430c404404406806706304f04b04704404d0490420420610e104604104206206306208306104108h0",
  "420430440810c20450820410410440420410e50420i20410410a10410430420630650c40650670440c106104104106",
  "304104304906704206204106208204106304804104404308204204104306304104304304304404106204504504404e",
  "04706304204304504604506h04106104104304806506306806i04404304b04304e0460610410420420420480410420",
  "450410440820610420440610410810810420420a10440610420810420610420c104504104204d0610410630430a108",
  "10420440620610440440820a20620460410420470430640c206104106504104204304c0410430410410g2044041044",
  "04304206204104304706104104504304504206a0440470440420490a204404i04706e0470610420450420660420450",
  "4104104104304306104204204104504n04c06q04104204804f0610810g10420c206104306104104404204206108108",
  "10620430410410i10g30640420a10630820410a40430410690810420620450410470c2041042041042064041042081",
  "0410410640410610440440420430o20420a20a30430440410610410670610470640410650430620620410g50650410",
  "8304104104106404104104204604604604704208104104204204a04606206604504104404204504106104306504806",
  "804208b04204104b04106204404d04m04304p04d04704d0410620620c10420610a20450620810610430420820810e8",
  "06506204506208404106604706504204206f0810410410a10630410620630810c10610410840850450410c404a0660",
  "8204404c0410490410620430g304106304104104104106204306408106204104104706104304f0410610a404306104",
  "10420610620610430410410630810610e30410420410820440460410420660410440650a20420610a30a3042062042",
  "0420610620430420420410m30420820410820410820630g30450450620410870410420410420430620440820g10620",
  "420410e10430640420640410410430610410620420410420810410610430420680630650430420410410610650a10e",
  "206104206506404106308504404406206106304j04804104104104204304704404406704404104j042045048049082",
  "04a04604304504106506104h04e0490460410410k20a10630410610640410410440620450c10430810a20a30420470",
  "420610i20420420420410830440660810a10630a10620420640430430410810420410g10810410810g20420610c20a",
  "10410610640a10640840420440430610k20410630420460620440610620410e4048061083041043062044062064041",
  "0440a10410810430410470410610410a10810420620610410410450410420430a10430470410610450620440410410",
  "410440410a20450620620660610410640430410660450420410410420c104704104304504804104304a08704106104",
  "906206204404504404208104404106104104304104204706104104406504304104104p04804804504c045042064081",
  "06104206504206204204104306204104106306204406304104104204f0430630610430410410620410420610410410",
  "410410680420630410a40610620430680410420c20e406204504106204304104106308304304106404106404104104",
  "20850410420410470620420e204404104204104104508304106204304304104204404404406504906504504404404q",
  "0410880420460410820410420410870a10420430610430410410460410410a10410420640420420410620410620410",
  "a10420450410a30420820410610610410440410610420420410410440440410610410830610410610610410620410a",
  "804106a0e30810810410420430420420810680410640410e10610410420650430470670630820810g1081041041061",
  "08a0m104804106904104106804304304a04308404106204104a04104604104104404204204104504204a0410630430",
  "6104404304504106104104c06304804204304404304104204h04204204206104204204404204204508204304104104",
  "10a304606204206a06204104304204204304504804104104104304604306c04404a04104a04c066041046041044041",
  "04304706504204804706104504304b04704204304304904106504804804106T30c204a04404106304404206104204c",
  "0480e204e0410640a10610810440620430650480480810470410620450410410420e10410450480630430410430430",
  "470850410810a10a30410610410c30810410620440420830610650430610430g204308504104104104204306208106",
  "10620420620640410430410410c10810620840610c40630610430420c30420410a10420410620a10410a10c2042042",
  "0430610430440410820460410420620420810430410a20410410a10610810a40610410410420420420630640420630",
  "450420420620410420410850410c10610e20620420420460630a306404404106306106204104406104204104304104",
  "106804404108106204106204204206108304104104104204104304104806806406104104204304b04204f063041062",
  "0450670430420420420410420440410610410620610430640430430410410810420430c108106a0440480430420450",
  "4308a04304408104104104104204704706304104a04304104304304606304104304104104704306208d04404504b04",
  "204204604104604706b04106c06B104806704h04304i04204e04c08106406104304108404306304304108204206d0c",
  "10410430810820a404104d0610430440410a108104704104304b06504204106108b04808404e04404104104d041045",
  "04108504306404104204604504404404306506704304604104304904a04506a04404104604a04c04m04a0410410430",
  "630c10410410470630640430420410410410410630610440620420430630a204506104104204c04c0610630410a70a",
  "30440610410440410420W-Y1A30JSw230VUn10EB110310zB110WVn10410B_710UUP310PUP310A110r20620O_720p80",
  "e20d20_Vn10M210A210-Tg10t20N110310W110110B210-210Z110W810_710910Ef10R710x610610G310J110710l10_",
  "110G410s20l20N410O110110yA210310_Yi10EYf20Ad10CAP310_F_310YT_320BxP310RYf10-Gg10AP210110T31081",
  "0110d10110J210110G110110NX210Ol10320410AI710GRw2A30JBC3a0w-C360FOB3k0N2k0N2a0Zx110CMD310ZUw2a0",
  "KUw220zAD3c0KAD320Vu_20H-w210CQH330Ee10_dZ20M810Z_cA30HAx2T20-Nx2b0LjA30HAx2W20OIx280xdA30HXR3",
  "h0470YzR380VzR3h0470OEz310410110440-120620a20520640Z220G220920d10P110U120ZJb90R9A30JVR360H110K",
  "1q0CXR3f0xXR360Y110V1q0AWR3d0BPS320s10UTe10410A110A110Ad10810w840Y710k10810-210I120Q510CJ1E10s",
  "f0830O220K240I210HX110wX610m20yZx2b0JMT310_110we10xe10G310T210E310F310G410x310Ge10He10C610T510",
  "-d10_d10S710B710Ud10Vd10wd10410410410_d10D110Om10y-d10VPe10810Cb10Q610QWS340NMx2F10IKx2l0_xx29",
  "0UH110We20q30610G210k10620610WFF310Er10410DAc10BMD310AR810Exw210FzD310IzD330TOx210B620C620Pf10",
  "O920WwG3a04404e0440ZCH310x4c0o10w-x2d0_PB3M20MLB3f0FTw120410660620k20610840410460430440410830a",
  "20620430a104204204208406d04204104404804b0610420-IW1-20VOW1c04504204104104204204404404304204604",
  "10420810630420640410450820410870440410440410410430440450OGW1-20FMW1b04106206406906604206104104",
  "10410410420a504404j0410410a106d0420450630EEW1-20xJW1304106104304304204104b04104808g04n04904104",
  "10410810470630QCW1-20HIW110410670440480410410410440810420450420610810c104106106204104404204206",
  "10640440a80630470410430650430420410C_V1-20ZEW130430410610410610620410810850610i20620830a10a204",
  "4041081042042043081081064062044042042081041044041043044041081043061041082081042042082043041082",
  "0410EZV1-20x-V1706604104504104404704304804204106304104108204204204104204204a04904206104a042041",
  "0RXg10KPA110XHv10KW510TF710W310R410Czg10J410AP710xU610AJ510B_410XF310OGi10Kf10JWl10zJ810zY510-",
  "Q910yY110zz410EEi10DLc10MGc10XKd10YM810JNi10wV910MF610KE710GJ410Dzr10GL410KG410S-610UP910BWf10",
  "Tf10JG710U310-Nj10VZk10SDi10_wb10AO210OPl10Ww410XOq10-Ye10XLk10Wzv10Lzb10TS610KE210xK710-K710P",
  "D910LNa10Kxu10REl10WTb10LIa10YF710By710Rr10Sxf10KFb10DQo10SM510Tz710y510PZ910-wi10RZg10Xa10YCm",
  "10Yz810PHp10QF510Mh10I-b10zK110z_a10G_710Oy610KM710HMC110OZt10LU410_v10Rzm10wAr10ZKr10-Fi10610",
  "410420e104108204304504806106104306204104204204208104104b0640610430410630410450a104104306104304",
  "80680610QC710KX810XRD110IE410AVA110Hzu10IR310n10-A210Kyi10IB810NIl10NJ510ES810zzb10BW610T310CH",
  "u10XL710CF610IY310HJC110WLh10Byc10I-310yC810EZb10NVn10WZk10Fyd10Y_910z_e10yyg10Ty410PD410CXg10",
  "Ep10I410-P710NWp10KUi10JAb10PZd10WSc10-C610O610PWc10810510Jz610M810EXb10I_f10_Io10FF310Wb10Uzn",
  "10xNr10CQk10wL710Yz210El10H_310FK810MB710VOl10DI910SB210T710UEu20410Ea10LEk10ZJ410yCh10AN310yG",
  "a10VUt10_V710-_h10xLb10AC310ME510Te10TS910UI410FN910W310IBb10Vwc10Axl10Gxf10RMk10UK34081061042",
  "06c0430a306608206c06104204104106104304204104504104104d0490430650610zB110zUb10KUa10KC810FTf10Js",
  "10wyo10Fzj10PYc10N910YU810GLo10xSc10JGm10YO710WBi10_h10I710LW910Tl10Swm10xRr10R_710yp10WWp10JI",
  "o10Fz410M_710EW610UN810SKa10DNo10AN210MD710Kwa10BXg10FQ210KNl10Lxa10wLb10yZ110xFp10GHi10Kk10--",
  "910xUC110GNp10TQd10xJ510910OZ710yE910X910xVp10Ize10QSc10DQg10YAc10XN910HQ110AFe10Hxn10Cyj10zwl",
  "10Ku10-xd10RQ810WCp10VJl10RA810GWn10k10BVd10-M810NHa10xF410Kb10Ul10S_m10BSk10yS210MIi10THk10L4",
  "10-Yh10EE910HX610NP610Eza10VED110SWD110IJ110PJp10UQ610AN210410410a40420410440e6042063061041081",
  "0410610430410810420620430420e104104404104404104104104208504c0c80440470RUg10GO210WB110OUr10_PC1",
  "10CCo10xRm10Yz810O-710HBg10_Q210IWu10BQl10UBp10BYm10VO810YTc10XY810Zw410wFe10INf10NPm10KD110Bg",
  "10PC210wA810YWg10BR710wy610PZp10AF510NH310QJ610-xk10NM410JR210Vzh10-Va10DCh10WI910RE410Py610_-",
  "210Gxl10DSc10WJ710MFe10VVk10-Zm10wG510NKg10B-i10C_g10FP910P-710OUc10-Xh10HMo10KVt10JDd10IUf10N",
  "_H110EL610USo10zZ610_Bd10QR510PXf10w610SLq10HWk10Nm10wR310-Kn10P_d10QJc10X-910zRc10QHd10DLm10C",
  "Do10FX310HXk10Yzp10_yn10F210OHc10RMb10-Nt10wH310Ws10xAk10Gwj10TQm10US7304104208204104306108204",
  "10410410410480c404404204304308404306304e0430450410420420460430470Xc10PZj10-Sj10Ny910Mzi10DOo10",
  "-N510LA310EKe10DU810ZBd10SRp10BKm10LW310YXj10SO210JDe10Q210KWr10HzB110yB110CFe10HR610ywo10Dwu1",
  "0GK710UR110QEk10_Hu10YOc10YL810GX410z-i10wLe10VT410GX610NG510WAf10xS310LFn10-w910MNb10RGg10TSc",
  "10MRt10zCh10SUa10OA210_Xm10V-110PD210Fb10Mx110MMl10IPa10HYa10HEm10YLv10xJ910Jk10JDb10FV310PG61",
  "0UFo10JQ510QL310ZM710I_810zIc10R_510Aa10GNe10ZBa10V910R610z710y-o10XOo10CZl10TGa10VS210Lz910XS",
  "410BO210GTb10LNd10CZ810xA210AW610FKe10IFv10XK210LQk10SKo10BSb604a04504f04508104106404106904206",
  "20g10420410640410470610450620640440430DXc10wBg10PXe10XIa10YR210Gwu10_Tm10yQe10_Nd10QE310POe10Q",
  "w810GP610w_e10JKm10EZj10PXj10yy110Ny810OAp10xPd10FGb10GW810KOl10LDv10SI610YNe10VXe10Xy410WAk10",
  "zXc10OZn10XXc10_Rb10_110wOb10Q-b10Z_e10YA310yM210zZ110Nxi10AKv10zGs10LN410Mwf10MPg10xJl10-ya10",
  "NF410_R210WD910xPi10Iz310_B210JW310EVm10LV410zQe10Eg10GPo10xP810YYc10xRq10KU510Cz410zz310BUf10",
  "G-C110_wv10UYe10D_i10K_i10BKb10-E110LY310AGa10BA110UM610ZIi10SNB110TQC110M310QY810zX710SIA110_",
  "I410Ss10FZd10MG310ON710OH410_z110ZCs10Gxi704c04b0450810610610420420410410430620420460430610610",
  "410410410670420410420410620440410650420420420VBm10yOk10BQh10WJA110w-110QJ310B-410FZs10QAo10_Xu",
  "10b10AZ110OLp10BKh10TR710GWa10HHc10IN810_K710GWd10Dyd10UT810CQ110UMo10VB510Cz110zDd10KSd10TZc1",
  "0BZ510QL310E610-Qc10Lyp10IUf10Gza10_-i10I-m10LKa10H_g10WX710zIa10wVg10DQ110yUe10LYk10PA310CWc1",
  "0PQj10JL310yMC110LCt10_U110BI210UEt10XQk10SRp10VZA110Sxu10zZe10GUc10TLm10BM710IF210A210zp10ORr",
  "10ZXj10KMj10Jy510H_n10-K710VN410SOn10LBl10wVA110BIH110SNE110HO610HZo10CF310DP610QP710Gzm10Gb10",
  "wH410LRs10Gwf10ZMn10IPn10zBi10CWu10HEm10JKf10CZl104104204f04304104108104604a04504o0430410c4081",
  "0610410440430620a30610620yI910zVs10SYl10VA210zDm10Bc10CxD110VSk10WP310SB910F-j10IWb10CJ510B_a1",
  "0I_610IJe10BFb10_Fm10KQf10RRe10OAu10BN610MC510THd10yLj10DJm10BZa10SWl10TPe10CPd10VGf10G_p10TIu",
  "10RK510AMu10JQ610XXc10ILf10YW910Z_A110wXB110RDc10VXm10GNs10Zzr10UJm10VBh10SB710CIg10ZI510yK710",
  "BTu10E_b10JBd10CLm10PVj10Wxc10XJ210WA810xTh10xE510EQ810Ki10MYd10THn10Cz610Uw510OVf10DBl10WBs10",
  "Gy110zRh10DL210KSf10FHv10yWm10AK610HHp10JW310RI110WM210KQ210YE610wSd10zSi10CQ310Y410yMm10VUo10",
  "Uz610OQ710NBm10Sc10KTb10MZ9206104306504b04b04a042044082041066041049062041043061041041063041042",
  "0630410420410430810410810zx610Y310K-510ES710TZk10IBb10BJ910WOm10LZv10w-A110JDm10QYd10E210JLh10",
  "ILh10IC610JQt10ORr10Ky110xDq10PI410Zq10IUD110L-h10GU710Mw510FVo10Ozn10CK510ZLu10GZi10TIl10Mu10",
  "P610Ozq10XKj10SE210ORl10Fye10ZE410NB810MKb10Dz610W810yS910yZ210SN610NFm10OKc10HGa10CAk10Vzt10E",
  "910QIB110TWa10Gm10Ru10VBh10QZ810zM310SHa10xU210wEi10RUc10Vv10zL110NLc10ETo10BRd10J_i10W910OGb1",
  "0VU310Rv10KDu10TUe10TV510NSh10OPC110xQ910zBe10QKf10wR710G910Pq10DMD110Uz210KNl10_Jb10Mwi10Ty61",
  "0BSc10TF410-Rg10TI220410440410410410460410410410620a104104104106104204104b04206204104104104204",
  "10440470420430610440630630i30420430480430DAi10wHk10Pwb10DL510MV310XJ910yy610wSv10z_H110CRv10_T",
  "u10-D510QW110Ti10KH710ZW410ADl10_wt10QTB110VwA110Cwc10AEb10PA810JTd10E-710Swi10xAq10wHr10Jz510",
  "DTn10QPj10ZFm10wYe10RV810Fp10EUC110zSF110MOp10yz910BH710LZ510XVd10STp10HYA110wyv10RJC110yKh10X",
  "Ih10CZ410CS310AAj10XKt10UHa10LK110AN410NYb10KC510P_410ECs10BC710K-e10LDd10BGf10wV710GOe10L-t10",
  "MT610YZo10Vwd10IVa10NJp10QRg10FPc10wEA110Jw410DJ310Iz510VV710RWa10LD710L610yAj10Jb10PPt10wUu10",
  "_Kg10ZA310QDm10PB210_-s10-J810wVg10yM310zPt10wPj1064044041045062043043063043042045044041048043",
  "06204604804606204d0460810MHf10zUv10yA910Bl10BYe10yQ610INv10HS410Vxn10OQn10UT310xxB110UYc10F-81",
  "0Jz410wY110Wyk10W910HTd10zm10IK110FD210Bj10wH810FL210r10TR910yD710wLd10JVk10NE110Yzq10zHg10EPi",
  "10_Vr10UJj10_Bm10EXc10HPc10Qi10Uzm10Q510NZd10MY810DTi10NT210GL210UMh10Oxa10SX410zUk10Kg10Gxf10",
  "VF210IVa10TS810VPr10EJE110XPk10ZEb10QV910PH910XW510HF310EYd10ODf10zAk10yRn10XKt10IBe10Cwa10Myb",
  "10JRo10VZ810SY110UYf10RRk10Tz210KYh10PPf10Da10BY110K_110y610xC310-w810wFa10HWd10KXl10TY110GJ31",
  "0HKa10U_410HH710w-6a04F106608b0470620410630a20410640430420850420HZe10OSj10DSo10QX610DBa10QBf10",
  "FH510UHg10Tzm10Ro10A_f10ZG210UG310RSh10Ig10OMs10ZAh10LE510M710y-610zJb10Gz910wI410XV510KYj10JM",
  "810Bxd10zL110zX510MMg10QHb10ZUd10DX110Z_810KN110ONi10LAh10QXu10Tyi10wF710_S510_Z210NJi10MQ710M",
  "F810RQ510N_310CA110Cyl10xZd10VU610IGm10Xyn10Ka10EHj10L_n10GOa10ZS510Gd10xB710OZ610MY210SNj10DU",
  "910FOl10-yg10DK210YWf10-310TR610YI210JVe10Jx510QOA110B_m10Ma10UEf10LQf10DCf10EVg10YU910Bwg10Jk",
  "10YDr10L-410zw910ZXj10GU210Yb10AU710yD710KM210x410Mq10Ui20430410610410670810420420670460480420",
  "4e04l0410440430430470MV110SNc10XW410RDg10K-d10YH910JDC110wPi10A210_Pl10QX910Ol10SLj10HU910SHd1",
  "0XPB110WF610SZa10XU410zPc10MV310yzh10FYd10HU810USn10RRh10yOj10zFh10_P810G-410JF610-Fl10VSj10MH",
  "710MJ610TY810310-zn10u10xyi10LB310SHr10DLu10IVi10Z310BKk10yw810xH710Ly410GE610LR410ULo10ATa10X",
  "U510XAc10YYf10NHC110K_k10JUl10-Lc10QMp10Zxv10WL810KV510NXf10YL210ISf10ULd10LKi10Dzf10wSn10Os10",
  "PPk10YYi10GC210NGd10Hd10KM810T310HZa10y710-Bc10FZl10wH110V910CYo10JXc10SJk10zH210Hc10_W110wW51",
  "0BYc10NLm10CEnX104804B10FTm10Wyo10zzn10yRD110zVl10K710xd10ZK710JA710OO410UC110AU810Ne10OS410KQ",
  "710FCe10DR710YFp10DJs10CFv10YN210HQ810NDe10--710Vz310Az710DFp10MCB110FYh10wTm10ZHA110VU110SU61",
  "0WOo10JQe10LEk10KXo10RD710CPb10Qw710LEd10L510zFm10UN910YBm10Lv10810PZt10WKj10RKb10P410CO910EX1",
  "10-F710-z610XAq10zX710Ozn10xCd10He10R_110I_910EY110X-610Ez810AR510FBo10EE410Oxh10HS110RV610ZSi",
  "10Hl10UNj10MEb10Bwn10Ir10wUe10Nwa10wCm10NQB110WFf10UDe10PD610-_b10BGD110GWu10Gx110QZ310PSo10MT",
  "910AFb10JOf10HX110CC8d04704M20Zxg10VY410IJo10H-o10Ywo10Fx510JO810EEr10XAH110yB910I_d10l10YB110",
  "TDo10CNu10NPi10SBp10zi10LNv10SO610A_n10Pzq10KEb10wYg10NHe10110xRk10-Of10S-410xKb10YIb10UC210TQ",
  "510OFi10PwE110GDh10VBh10KPB110Rwu10Qw810M910KBe10i10NXm10Gw310SWc10MAh10PMq10CA810IO110PXc10ID",
  "v10zKb10TYj10_x310SWh10Vwk10AHf10Yw910PYe10Y910LY210BH610MGu10C410CR310xTC110I_110EQ610Ky710JE",
  "f10SO810GPt10HCC110R_410CRj10_xh10WWl10ZFd10Ma10DK110-g10HY910CCh10IZb10LBs10wAt10FO610LZj10KI",
  "m10WN810XQB110AI110AO410AQgA204504504m0FJn10SRl10RY610OYh10yw410zQC110Te10Jj10yk10CF510SO210yY",
  "210PYb10SX710xV710AC310DV210MH210-Lg10Dg10HFc10AM110SWd10JId10Y310J_910G_g10yW710XQe10w-610YHj",
  "10R-v10IWl10XOd10Mg10A-710Eyf10LMf10xNg10_D210Hc10KEd10ROe10Af10OW410YFo10zU510XWl10GG110wM410",
  "DS410HS110wEj10TCd10XP210GF410Ng10ZL710AI710XJ310Q-510DM910Exi10OE410CJ710HOp10CFl10Xwn10To10A",
  "W510UNl10RP610PZk10ACi10xyl10EE810xC210CY710ZBc10-Ck10xI410XH510Sx710Rc10zT810DEa10LS110KEk10J",
  "Bd10M-e10Az410NSl10G_A110BMF110yzmE104o0430A110c10e20U110s10g10q10C110c10s10S1104104704106a062",
  "0KDd10BGs10YV610zRb10EK710_L110LF610Y_510F810LZ110CUr10BJv10MU510DU610UZo10Nz210SF710ZDt10WEn1",
  "0XEe10C_i10RH410FHl10Kw610RS210QQc10GCd10BKC110YCf10IJe10FDk10Wyi10L_j10ITe10HE710Zt10AS210BH5",
  "10QW410DDa10IAp10Nxk10GF310XA510VK810-wf10-Z610JJo10SH510KYr10BJg10XT110VMd10DI210OKE110To10z-",
  "710HL610KG210xAm10CH310AT610Syd10_A210BZ710R_110w610Nwb10Cu10ARa10Sz410wEm10ZNh10RP410GM310PK5",
  "10GP210PL610yHl10QN510PWh10wE510J310JUn10QAa10Tzc10YU210Pd10wYi10PLi10Zl10Bq10Zf10K410MYn10610",
  "4404106508304206104404404204804104104504504208104204204706104506206104104304404104104506204608",
  "20BA510SO210Os10Z-710CBl10VBC110Q-g10TZf10_P210WGo10yV110YC610EZ210NKr10Gl10GY610NY710GU310wzd",
  "10My910FLq10CH810OA710JB110JOl10QLb10ADa10yx210VEq10EWA110SE110BVl10_yb10OVu10XVj10Cwd10_Wn10w",
  "Li10Ry110R-a10Qzp10NFg10_Ng10Y_a10COo10ZIr10GM310DY910WKr10T_b10JCf10WGg10Ki10XJ610AW810-Bf10D",
  "OE110OIB110GC610FRn10_-d10MWt10HSs10CL710IO810-D810KQ910yI410BM510ZYC110IGo10xym10SKf10AAj10Py",
  "s10Szt10_JC110DQ210Qxf10wW210JF510OL710ISg10LDi10BUh10YAi10FO410xU210LIb10YCH110xUf10Dxl10GKj1",
  "0Z710KS210620440410610470630610a40820410410e20430410420e60410410a20410410420620430a40410430410",
  "4e06604c0SAb10DQv10yV510KWp10VMm10PX710y_410Czb10HM610YTj10Jw910HUn10GSC110J_s10S_810LN610zE81",
  "0WOp10EDb10EB110NAj10MKf10FU410Za10wT810BSn10MC510zCd10CPr10PBq10MEs10zFD110QMA110TTC110ECb10_",
  "V410710ILh10YT310DCd10HK610Y_910FK210WB810RBh10KD310Bx310YX910BXd10HQ210-Sa10Ky810HM910wMm10PE",
  "A110J510Kze10AB910IQ610ZZ310wZ110FG410IO810QO210TXc10QPf10Rw810VL210DSb10WWm10Twd10HVi10GTC110",
  "_Rl10MG210CI710U-910M110NGC110HA110Ix110VV410MDI110_UF110EHu10zL710NX410AAh10HK910ZAc10EDb10NB",
  "f10TZ210Sy610GV810620610610410660420410410a10a10630810810610420420410k10450870610e20420610g10e",
  "10410410410640430420620i104104104304d0420410630410450410UO510NZ410S910RD610zN510TD610I-h10DJ81",
  "0Uz710KB910zTk10AA610WOe10NVA110GZn10_Wo10WK610-En10Ya10_Ov10GWi10BB610We10CPk10GZ210Jwi10FM21",
  "0QG510NHe10-Kt10DXk10-x910NWc10NF510NB110Ce10yUt10u10VQD110ASq10w810Z-c10GD610CFf10JBh10JH510N",
  "U610Azd10WGd10Oy210JId10WR910Vz110NPm10yUe10VJ110w-710RPe10AFd10LVl10YH110OI510OF710Kz310_Vm10",
  "P410Yn10AW310YNi10wFc10VIa10PQf10Kx910YE710x_510PZ510Bw710_P210QXl10HKa10XF210DV410AAa10_W810_",
  "J210yUq10z-n10CZg10IIb10LT410_NA110A710-wr10Hxj10QMe60410410830610830650440410410430610620440i",
  "10450410440410460420850420410410480460640a20430410470TVe10QZg10_-d10WXb10HL410zHa10WOr10VJs10E",
  "H210AIe10FQl10ADD110ZCp10KH110DU910yGt10BE510Xwc10zI510RQ210UZ710Pxh10wR510OA910TT910WB710RF41",
  "0LX510MH710Gz210My710Q710zP210-z310NUb10JB710T910AFA110Z_110NIr10OJi10ZJ910Fze10GT510UJj10PMj1",
  "0B_210A-g10OYg10H_v10MF610C_e10JJg10wXq10FCk10HXc10-RC110X_D110IW410IBj10zUj10KWu10ROD110WLe10",
  "RK810GK310zX910-z110YDn10WI710XUg10CHb10FGh10HF210UEd10RAa10Tj10LY110Zz210OWr10AK610_zA110AR31",
  "0GPe10JMi10zA310Yzv10610Pyj10ZN610QT310yP510BQg10Iw410GFjf043042041065066061041081085062041041",
  "0460610610840410a10810g10420450420410410430480410440480410DYf10O_410wX210x-710CEp10B_a10MF110_",
  "x910Nxd10QW610_Y210TM310QW610zJ310GS610Uxf10BL810JH910Hk10SQd10WQ710HRr10CEb10yPp10BHp10CCd10_",
  "Xo10zz110yCe10TTb10UEs10PYd10NBa10AA110CCa10RW810Kc10UL710HL910WK710Jg10xD410QF510AY310Qv10Ht1",
  "0Pq10_Sh10Or10PY210WE810GS310SGd10Ya10VDf10JB710xF110MIf10-zb10IU210_Og10RGc10EGm10BOk10WPo10A",
  "G210MR410ZR210H-A110ETe10HOb10-Qg10Um10PYa10CF710Vm10BC810-Xi10DBe10Ew710WX110Cx210ZJd10IUr10P",
  "Ot10SUa10BUg10GKg10OSf10_Lq10E310FC810wwg10xF410GJb4081084062082041043041061081064082061041042",
  "0810m10620830620420420610e10c10620610a10a40430410420420410410450k204106104206104208a0620810410",
  "410a10810410Rzm10Uzl10XY510Yf10JXh10KKh10FOi10MU510WSn10Jw710PXl10Q_g10AFk10zr10Lzk10A-210MI21",
  "0BOa10yR910RKa10KZq10LW510TGs10OZl10LAp10QR410-Yl10Ih10TZi10LI610SQh10yMb10JXn10xO210WZa10WYl1",
  "0BEv10y-e10ARh10RV510LV910zDl10W_710SKp10HDD110AMq10Wd10P710Sc10xNm10AW710BD810WW710QP310WMf10",
  "HVi10IT410DP410WB210HS110X_210zF410Px510Cy110EUe10HT310wL210RRd10KVb10HY710AC910-_410PFc10EAi1",
  "0AEf10RXs10CX910d10AVg10TR610JPo10HC710Ga10yS210ES210WLf10Hwg10Ywa10Axh10BMo10UX610M610QMf10VB",
  "k10ywf20420420610450a10450810a10s70620870620440430640420610410470a40c10c1062063041042041042044",
  "0410410430610830430630ZXh10wM610QT210zA810QCp10O310DYA110yHu10FEa10zJm10OUu10Pwu10MFI110FC5104",
  "10LGB110-Qe10OQg10xRh10-Of10FCq10WT210Iz610S210zZ110zU910SPm10Ps10FPj10yJm10Z_i10QW110Kw310EPl",
  "10Nyn10xO210C-310EU710FVk10Il10-D710Cxs10XOp10YSd10VOh10xR610yLl10LIk10wPo10_Oq10WB910IFd10GCd",
  "10BPC110Fg10ITl10Dx210_Ug10Kzn10N-e10WOa10_ze10IK810CNl10Nz310RVh10H-d10CU110MId10NT410Mq10Yx2",
  "10VW510Exr10_H610BXm10Mxa10WD310Xa10Fxl10SJB110xKe10By310PWa10CHt10LIi10MMg10BFt10YYp10Hzf10wx",
  "j10NGp10SCv10BFm10yya20850630430410610440c10460430660c804604306804a0450410a4041045041083041041",
  "0610410420LKo10AG310KVC110P-810P-s10wU110-ZA110HWo10QFl10DNi10BWd10EGi10NN910Sx710HHg10K610wJm",
  "10LK710Iw210HMh10MNF110FJq10OL710EFf10N-610JT410xG710w810TDg10UEb10CR610__d10ID610BG710EPq10wy",
  "610LQr10KGe10Xze10I_710BAc10VC510d10GR810UBs10XOE110SKu10Bws10OY310CSi10NFe10NY910QRb10Nz110US",
  "g10Cp10Lm10UC210R_a10xN110ZP910SRh10VTm10ED910WA210KLc10AL110YN210FQr10QG510Pv10-Cr10xTA110U-e",
  "10PPd10Ayr10UE310-L310HO810XO810ELg10Ae10TEk10-Ta10Hxh10CW210AI410MRb10TL110KVd10JGC110wPq10DV",
  "v10Qx210YLo504408106104804104204404d04204104308204104104204406204206104204604106204106504304b0",
  "420430H-q10KEb10yO110xH910Xw310w-a10MIr10zCs10Rw310wZc10GB710RMa10VL210NAc10OKp10XY510DM810NQa",
  "10AGd10QB910L_m10UK210S_d10w_410RQa10QX610CS710Dwd10PN510BF510wVf10yOb10-X610W610_Yo10YJk10xw5",
  "10zCm10CNb10xA510OOe10XJj10xW410EC310SAs10FQj10DEc10AB710SNm10BFg10HV210-Lb10LS410Mw810FZn10YP",
  "C110J-t10RS310wyt10P-810VWi10Q-p10FI310VL220SV510DSk10_D410wU210QD610Kx510AI910NY910HQ110PLg10",
  "FU210GXv10TLg10Bz910KKi10NW210LN610NO810Vi10IKd10Iw510_Wf10SM610NSa10-Ce10c10FL110VSf10Ywl10AB",
  "3904404104304204404104906a0g504408b0420440450430490410440820430_H710L210DHi10GHn10Rxk10KO310NN",
  "210wxc10BT610EM410QVe10zZn10SDl10_Sp10ELi10JPa10QP110LTb10-BF110zF910DOl10QCo10Hzr10A_h10FGk10",
  "-M610QCv10VKA110IU210WCd10zEg10JN510S-c10HXc10EGa10Mwj10UY210xVu10AX910FF810A910MZs10ZSA110Qb1",
  "0wDB110Mw310BWm10ZA710CE110zJ210ECn10-A110zJj10VO110WUr10xAv10O710SY310TF710Nl10-Eh10RKi10-wp1",
  "0TYe10Ch10ON110PP410CQm10zxt10yDn10BEa10yx310RSj10QOv10xzo10-Cb10ABa10xRf10Q410SJc10yY310wyb10",
  "G510DMB110CN510CMk10zzj10Db10DV210SMc10BFh10CD310UL310Cy410CFb206104704b0670430410430860410470",
  "4704506204104604704404f0Fwi10xB710Mzm10Rxd10YBi10NU910HSb10yA510zR210QCq10_UB110CHf10Iyc10Zyf1",
  "0wS510wK110_zi10yXh10yMg10xFb10Qz410zZ910BU810ww410DR510Th10zF710O-410Iwc10Ryi10Vz210yVe10WQa1",
  "0XIi10NB310Qf10Bw310410MDF110zXt10WY410ULc10LDg10AIs10BI410LHq10CDo10S310Rzj10YDf10TXe10BO710E",
  "Nm10MJ710xYA110SUm10-P910_X910Xwl10yV310yFb10_O910UAo10LU510KP810XN610JQ410MO510yA810810Twb10y",
  "-d10JEh10ZAe10Mze10W-a10KG310PUe10LAf10MA410Ywb10My410HCe10Nw910GCl10RR510ER410-zb10BMp10H_410",
  "LX410wK610TA110Ji10Kwm204304504b04404g04104e04304g0c20450430430480ZP910zE810wSl10X310BU610MA11",
  "0PCg10XL710AQc10yGi10HDs10ON310-G610FSa10wP610AOk10zPb10DU310xYb10KS910AX510FI310AMe10J210DKq1",
  "0SIa10GKe10zz710BRa10Rw710ILe10RE210XAa10Ez510PC610yN810WLc10VIm10Myj10xLm10EKv10xOg10Gzf10HLe",
  "10XV610YA510Sj10EB810yR210Byd10Ayj10VCh10yJk10xM510BFp10ESc10WW910LG210Dy510yMa10Vzg10VFb10yyt",
  "10-O310BUo10QMq10HF510PMs10RC310Ywb10_G810ME510AM610DVd10MA510_R110ENa10_Ya10KMe10H110_Ka10Qwg",
  "10xc10JDf10AF210CIk10PKc10SLb10zb10wY310VKr10BJ510Oa10OJe10Uwa10420470m70a50410460650620a10420",
  "820830450430410610820a20430610420640440430610c30640410410630a20440610410LNd10RU610VJ710zq10AA8",
  "10wI210wQf10Gz610Tyj10yRk10Vxc10Nwh10ANA110PXq10CYd10zG910BT210wAc10wY110HQ410HWi10yB910BW410W",
  "Nr10NBv10Wyj10yb10FYh10IJ410EIo10DJh10DS810BU210zQ110XL110SPe10VWb10MM610WOq10HRb10MZ210KB110M",
  "N310D-t10CF410CVi10TOf10x710SNf10IQe10J_310yC210s10zUo10PY710yS410JZ610Qz610zE710EBp10ZZc10RT9",
  "10GOd10Mx910DTe10HF910MTp10ZRm10-U710WS210INi10JEF110-Lh10VWa10WQe10TVa10wR110YD810Vya10_S210D",
  "l10DE610yUp10VOa10CS310TOi10QOc10Qyb10Bzf10UH310Ci10FU310HF310w710QRm1041041042081043044042042",
  "0420430420670820410440430410460420880410430410440a30610420420410450430470450Nzk10Cu10ZD610KHC1",
  "10RA410PZj10BV810Js10Ax510JK910GRg10Ow710Gz110Ok10TDl10JL510m10IR610yGh10DYb10A_e10NKo10YNg10I",
  "X510BUl10wyC110DAG110AOf10M-e10TAo10OW210JA710ILh10L_310CGc10FQg10IHo10DUb10xHl10Q_i10ON110IOc",
  "10ZAA110A-k10FN510Bz810U_h10LXc10YP610XIc10AZ110TD910UH810EK410PJ710zY410YEA110XFD110KBf10WYf1",
  "0Bwn10KZ410YLe10J_c10RGa10j10OZb10J610DNe10yKa10T_710MNn10BRp10Ca10Ax310YK510IPq10TJo10KA610TW",
  "f10x510y_610AVl10Vzi10KY510RA510--g10ZS810J510ZY810JD810FA110SOA110NKh10WSa3042081043041044042",
  "04204504306508704404404404304a0440440460480410640450610FC710BZc10FG110wH110IRg10PIk10Oy310QK81",
  "0J910JE110TF110AD310X_310SCf10_Hl10Zy710GF610NR210OUv10Xyj10I-710yZc10TIq10OLe10PT310AP710VVp1",
  "0W_B110PY310zQk10Lw410BU610wUh10DOi10WZ210SW210XP210wW710Qwo10_zB110zG110GyG110P_e10X-k10YGs10",
  "_M210ZB310Wx910HGk10PG710TF210EX510WCo10RLh10D810zWf10Wxm10WAc10H-c10N_h10wMt10N210BZb10Ny310L",
  "Vh10IzA110GC210P-e10GZ610XOd10N_f10GXo10zG310CI910FPl10LC610DC310yyE110DIt10UG610DZc10EU110AFs",
  "10TD410Ty510OKf10TLC110IK110Kr10wFv10PXj10Fz810CB910FX310Czge0460420430430660660420410470c2061",
  "0610410410440450810610620420410440430450450410460VJm10Db10IM610KHc10xRl10SZi10Rya10YA210RLd10Y",
  "Ke10OAe10wD810XDC110Az710Wh10AHm10xQl10KSd10-U510NHt10ORb10PTa10CIq10BDj10YP510O310OSf10Bzn10S",
  "Vk10VP110wF910R-k10QHi10V-k10Jx210P310D-710IGs10LCh10MUd10XD710zC910LY710w910UX210Oz310AUo10LF",
  "410MU410TRp10ON410PS310HF310zI410Eb10EQn10_-m10CXc10WEl10TTi10RHh10wd10Axn10BGc10PX810GUv10PUd",
  "10MN710Fx410HEj10wW410IPq10LK810DEo10GGB110VOs10QCm10HP310GJ610xXu10IB910xV310wMb10PPa10UQe10z",
  "Oh10WGi10610YH810Dys10Y_210SQ210-R210Sx610QSa10430450440440620620440430410620650420a2047061063",
  "0620410430470450410650850430440640430410410EN310Lwc10Mc10Cx310UJc10Rz810JDl10yQf10MHe10TK710JX",
  "q10IMf10J-810EE310M_i10N-n10IHv10xIu10Qw610Ed10EVf10410WF210J410TDu10CT710UWt10e10Z-E110JB310E",
  "Jq10HG810GEa10LYk10GUl10TKd10MRk10H_A110ND310YRu10ZKd10XEe10YUA110TSi10LO110ON410VKk10--k10yP7",
  "10RGl10wE110UQl10YJ710xI110_Xi10zy110VX910KG510GZ910CR810RTc10-V910FEl10Kwc10REf10yIi10OKf10_x",
  "A110KG510Uy810XXa10MGo10EH710RQn10JF910CQC110PEi10zH910XP210ZP910EDj10S-410zH910QSk10XAl10NTe1",
  "0EOj10NFi10YLb10OQ310EUg10_Q710Tzj10AOd10EMa904204p06604k04304104104204r0TVi10_B410yDq10Hza10E",
  "Z810REp10xS210IVm10-m10EB310BY410_Mb10DO910Q-k10z_610OZf10PBA110NV110MBF110zNq10XXa10Yz210wP91",
  "0QFd10zCk10MJa10Dxf10SP510xx210WJ810WRo10HVC110F910SVs10wC810RVv10ASr10XFb10BRl10MAp10zV510zQ4",
  "10LO810Hr10KX210Qw410YXe10NGr10Qz610RZ710UYk10xPk10KZp10R-f10EY110yHl10PBq10Tx610UL810wEh10EH7",
  "10Hx710RN510JQj10yCt10Jyj10ML510z_510ZX810CIk10PC410CUe10J310Y510R310zMm10UPg10_210xf10OG210M3",
  "10VIm10ONa10YDm10zr10RDu10Xz210ONA110VQj10LC910Swu10JTu10YN110WXr10xO6v0610k10c304304104104404",
  "106404304304c04604m0ZKr10CYn10_Lc10Zx710Y_B110Xzv10IJg10CJ210W620xb10A-110OI410XG110TJb10NVb10",
  "KSs10TCg10XE910BU810MA710DY910AGp10V_510_Qb10KBs10FM410BR310TGp10IGc10S910Hl10Rx510Px610CGh10V",
  "Kb10JW710QY810Rb10Fy110wQc10wXd10EB210NAh10__210-n10CRh10_Dl10xT910Q210DK210QHB110Pz210RCs10IL",
  "510MUo10xzg10LVf10IDk10XT610QNe10HUi10YOg10ZKp10K810AGA110yD610FXt10IR610h10CHk10Z_D110Sw510OL",
  "u10TNE110CH710UTe10DDf10MGo10_C610HD610Twd10YKl10MD710_Lu10MEu10XIt10-S310OL110Om10UC510-x310C",
  "y610Oz410V6A104904Q10470XQe10Bw810EQm10-w710RB610EA710My110RCo10LGe10B610AG310yNo10DOq10KF810C",
  "wl10PKs10JJ110yK110SDe10zK210QI810IM810VQ610DZg10Nh10UDr10DXn10Mxb10IO710S310EO310D_r10C_f10XZ",
  "a10DG310-Vq10Z-a10NYo10MFB110N-u10QWB110NSC110-Iv10XF510S-510PQl10Awo10_Ju10PD410WRi10LP810Wf1",
  "0HX910Kxd10xMa10wyp10_-u10WZ210NH110CG810An10YNj10V110HD610wV110CA610xY910_Nl10Y_p10PFf10Tr10Q",
  "x410GQb10wz310NBs10Mxs10xZc10XA310-m10yTd10TDl10_M810IOd10-Dg10xSm10_W310AP410AX210EGj10DRl10V",
  "J610AHc10LP310UDk10LO2806804Q20y_410Oh10_Mf10FS710Gq10ZRa10xD310WGh10ARd10_Wj10Gj10LA510-Pf10T",
  "El10yw510Gzd10Tz510QJf10B-610Tz710CB510LS810y-k10TGp10Pd10G-k10_Cf10PKa10QL710CMc10xH610EK810x",
  "Na10CM810_Wd10Gy710FB810YG210YB510DF310xUc10QA810MRn10zEv10S-o10XI510QGg10Byp10EV110zw110yD510",
  "SLg10xAe10EA710FCn10CUn10VJm10EIu10Lzm10Lw610y_o10SK410HZ710ERa10__710EM510_Hh10IH310xC710AY81",
  "0VB110GS110Iz410GS510UW310DOC110--b10IC710CBb10wT510Pzp10QBp10ye10ZX810JZg10yBa10_xb10-W910NGi",
  "10WY810AW210JI110IH410HC310KwiD104u04v0xRm10Awb10UQd10_Q210HS410_Pd10xG110xP810OOp10FT710wL410",
  "A610BMa10L_e10YHo10Ko10PV410N-610SI110zS410VC910Pb10Yx310Oy510WF410YFh10Hzs10y_810ANc10BOf10GU",
  "110w910YDf20LI110DVg10Fk10FK510IEa10-W910C310yQ910zIe10WT210LP310FC110Oz610JGm10QJk10JOb10-Lq1",
  "0PC610zw410VP210EP310yQ810VNB110K210QQp10Nxm10MX410IV710UJf10NS710-M910XN710xHh10PY410-Bh10PRd",
  "10GK510QGq10HMj10Lx510CLf10Twf10S_510yMc10Z110KD210NRa10xB510G910TK710KOa10PXg10L_310YBr10LGe1",
  "0PUa10OBq10yG310Uy310Nwc10K_7A104504T10q10a10k10o10i10U110-110K110zMu10SZe10KH610yRg10P-r10OZ7",
  "10ZS710TOa10GAl10MVb10XLl10UKk10HZ810ZV910J-410CEl10zTn10QR510_w510Qyc10Pw410OBm10PS210JK110P_",
  "q10Awj10MQ610_Dt10GY810_610LY710SPa10Mz510-N710WE710PAu10Y_g10HM310DT110Bzd10-S110YJs10JUp10YM",
  "a10Ng10PG910-yg10NFn10Swm10Tw610FY910UJj10Zz910LL910Ywv10xCp10KVi10FJp10KWh10BMf10UHf10IA910RU",
  "110BCq10yH510EBb10Iz910BGt10wH910OY910-G910MH510NXb10O_a10RDb10xEk10KVt10RIl10UGc10_Vh10WGq10Z",
  "El10DE410LJ710yIc10HYb10xf10I_310OV310SWE250XzN19044061042048044046067067044087042043061047043",
  "04l0_Bv10B810IT110_S110-O810Tx510_S210G810T710IRG110Lyv10FQ210BE410EZl10VXl10MN210xM210MO510yQ",
  "c10ZMf10EKc10BTa10KAl10GLc10Hym10Ww510SZj10BOI110S610CHI110HLI110q10U210K_p10ZSj10z-210Ga10VU3",
  "10SM210A110c10410i10OxB110PA510FEt10Wd10zc10g10A110yBt10L_s10510Bm10c10c10-110c10o20o10E110610",
  "910GFp10DDp10a10110u10610Bh10Ezm10RJo10g10c10d10M210d10k10p10w310P210-210E410z610A310410x110E2",
  "10G310i10Cza10xza10610CVuA30xwu10f10J210m10S310310w110f10b10o10B110510-210x210A310P110E5104104",
  "10J210K110i10d10l10s10S110C310G210R510S310Z110-110110z210y110v10S110610M510V310E110p10c10y110u",
  "10U210410410C110Y110A310R110110b10g10S110810xC110AWe10JOe10q10S610EzH110TVp10yC810LQl10-I610YM",
  "A110BT210NBE110GZ310VB310I110UPr10NPr10Ji10yS310Hy310JL110ML110FK110Wxs10M310z-s10-Fp10yx310DV",
  "710XEf10-Mm10VE410ZAn10c10o10110EVtf0810C320a10g10c10630410420420c904206406504204a04304d041082",
  "0410410410630610440610610430ZAu10B310o10610W_s10c20610k20410m20g10810110830410420610620810820a",
  "10410610610610610620410410610a10610420430610410510a10430810410620620620420ZMs10C110GKB110a1011",
  "0A110d10G110110c10e10m10m10g10a10c10410I110a10k10S110RB310810410710G110l10G110110610810JO11062",
  "0610830630410820430410410c10470430610420440480820650610410610430430620420810420c506604c0420420",
  "610610OE110f10-110j10d10E110n10610o10G110710b10910810A110810u10c10y110710a10s10310k10k10610RTv",
  "10KT310_J310k20C110CE110zC110c10U110-e10-Af10-z210RNc10zP610e10GTE110RXD110WU510SFb10VWb10FK31",
  "0w510f10wd10y310i10o10Pq10610310i10c10l20w210B210e10O210Y110T110W110j10110F110a10i10510U310h10",
  "P110M210w110P210q10B210q10K310610410110d10T110Y310910i10H110d10MJr1041045042041043041047063047",
  "04104c06204204704j04m0RNr10410v10v10G110y110910W210H210K410e10K110g10C110T110QSA110CX210TRu10U",
  "Hg10810410A110910y110H210k10610c10410E110q10c10r10Q110410S110V410-110h10w120l10P110m10F110i10l",
  "10K210k10T210w310Q210D110F110W210f10V210Q110D210c10I310B110P210y310i10H110s20J310l10O410K310k2",
  "0H510U810L510f10510U610Z310z210A210f10710Y110z110R210S410F310q10d10G310110AY5A30Xz510Z410y4106",
  "10310620E410P310W320H110k10N110i10N110h10U310p10X210W310Z310w110c10k10E110410a10A410X110p10Bzl",
  "10CBm10p10x210A210N210M410Y110N210l10D310m10A310n10l20t10J210910M610L310t10W710l10i10110U110I1",
  "20r10u10B110X310k10G210q10M110410Z510Y310I510o10610M110R210M110h10l10910M210z310Q110910Z110y41",
  "0310S210z_710WC810P410S410T110W110WA5B10a10M110o10c10m1063044061044064042043062061061065041061",
  "0820610c20410810a10610420430830420g20810410a10410610DM510V110X310510w510B110A210710b10Y110Pz61",
  "0Cw610-210i10S210810B210g10L110K310D110N110I310310d10G210D110W110G210Q210D210I210F110M210xTj10",
  "k10Xy210a10MPj10DOj10a10310RE310GR410610e10g10QB310y110K310Y110u10A110510O110I310X210G410E110f",
  "10U610S410J810i10I110M210N410-310D210B210K410s10M310c10P110-110V310U110v10I810X810f10O810710L3",
  "10A110a10H110U110910w310M210N110S210GYl10610e30460850610420610420610420450410c3062046061042044",
  "0650670410610640420450410410410410410410430820430410410a10a10a20420LEm10w320z110C210c10A110e10",
  "q10310O210Y110i10FC310Oc10OUa10PAb10Dx510E910o10H110110G110O110810v10K410e30410F110D210M310410",
  "L310u10A510E110Z110b10p10M320N110r10v10O310G310F210K110r10y110V210110w220D610C310E310T110810q1",
  "0q20410F320b10S310r10u10w310H310S310F210O110B210-220H110410M110610w310Q210M210X610I210X210I110",
  "L110C110H110MYt20610420430a104304308306308204104104404304406304104k04404306b0410470490410ZAu10",
  "-110-130H410510Y210-210O410z410y210g10B310d10y110B210Q510J410L110I610D220T210a10C510q10x210M51",
  "0x410U120P110E110h10R110W210j10q20N220W110q10B110Axs10LXs10L110810l10G210110J210410O210c10W210",
  "z110y110V210C210K110h10610v10g10E310D210q10b10A120i10s10Y110K210610c10810I110j10s10c10a10c1011",
  "0G110GP310k10910510A210k20SQp10420i10440420420620c30610410c10e30850410410410820870660660420840",
  "6404c0410610a104a0490xwp10q10A110e10610610Jt10D110G110610c10r10A120f10i10410S110F110W110B11011",
  "0c10r10y110j10q10s10E110R110U110w120I210110g10j10b10P110K110w310T110j10i10-210B110I110D110s10_",
  "110110-110m10s10O110810MNn10XLn10s10yq10810m10a10410610i10810610o10a10g10e10MKk10BQk10YU910610",
  "810620m10310q10110a10M110e10b10i10410610k10r10A110h10YOfA30TUf10Y110710s10N110I110110f10q10O11",
  "0H110e10o10d10-110510k10i10o10610u10wJ710LPk10Eyv10Fyv10D210CGA110860g10610c106108106106106106",
  "20430JRt10C110b10m10u10910S110710i10l10AKn10BIn10110k10q10410ANh10L_g10a10q10d10I310J110M110F2",
  "10610U110e20X110610m10C210Y110t10l10n10310Y110410B210K310x110O520410110P310IApO104p04p0ZDp10G1",
  "10S110810G110v10T110u10b10u10C510B310j10Y210910D110I110L210Y610c10B110s10z210o10s10w110-110W21",
  "0O310P110G110A110w110C210PB110MNr10Tc10410c10410420c10410a20410410440410610630420x-D110GBi10TC",
  "810AC510-110g10D110S510x110m10810f10H220m10410A110G210O210810N210U420d10T110J210y210j10I210t10",
  "610Z310E210Y110u10Uwi604p04B20_yi10D110V110O310a10B410510K110l10w110E210z110e10V110K310610410B",
  "210y510D210-210410D410K320P310810Y110R110Ob10F510310S110A310z410C210C310V210h10710w310V610C610",
  "x510w710G410_110w110O410F510O210F320D210p10-110W910x210R110Q410w410V410Z310410M110310710A210F2",
  "10W110_310G310F210Gc10X120F210t10X110M310e10K110S210T410B210A210A610810110H110b10k10310O510STh",
  "U104L10410Dwh10D210E110510o10-110q10v10410u10W210i10f10y110710U110u10xNa10810C110310E110G110OX",
  "c10-Wi10TGr10_E410k10EUm10_Tm10OFp10_T110-K210w110410A110i10j10a10510q10l10w110110e10W110J1107",
  "10i10m10I120h10410K110q20310Q110v10k10d10Dwk10Wxk10i10a10c10910g10VTo10e10110410ZR110_Y310Kw31",
  "0i10Pe10Ef10610MVh10DJg10110810OUh10PTh10-_t10ZMv10ZO110410k10Y120d10SysD104w10430LDt10G310z11",
  "0p10c10y210_110510Q210R110O420R210W210J210l10C210G110510S210410F210E110v10w210O210Z110m10R110M",
  "210G110OHj10DEj10t10H210610I410w210R310A210410X110Q210610s10V110A110r10810w210s10110Y110a10i10",
  "Kd10e10Dc10m10s10D210410u10GRv10420410a10310620810610410c10420610410630420420410410PAe10410410",
  "410620KSa804Y20BYa10610s10430e10420810810610810a20e10610620420W110N110820610630820620610420a10",
  "410610110810470640450410VLg10KQb10Hwb10GWb10OVd10NQe10610w110n10510A310p10u10T110710q10i10110w",
  "110n10GKi10DHi10B210310h10H210Q310w110W110C310J310110610g10310310GAgf04M104p0q10a10410-210g108",
  "20c10o10K110C210810JQg10110O210W110910310810y110j10C110y110r10r20c10810G110k20R110O110W210P110",
  "ATh30_Jo10e10m10L110C210Y310x110Z110i10K210u10D310G310j10u10D210H110a10I710S110B310E310B210R31",
  "0Y510F310H210K210N210U210G210Z310l10U210Y210Z410Y310K320w220F110I110x110A210-110L610Q310C110J2",
  "10M210N210310o10110_110Y810L210V110610Y110P210O510Ya10D710G220N210yCm10o10k10c10a10610k10a10c1",
  "0s10c204804M20NKm10H310W110j10M510H710w210C610P310O210x110W110O210R110K110Q110_110H410Q910J420",
  "M410J410F210510M110E210o10I110v10410O210F210A110i10K110T410W410F510E710A310D410U220w410F710E51",
  "0b10E610_410m10L210S510J110X310J110A310I210K110110S110D110I110YI410W110Bz320a10510s20b10q20c10",
  "i10Cyh10410830420410110420410410620410610810CE3s0a10G110g10o10a10610610410670430420e4081061041",
  "0e10820430650430410610420a10450410ad0610420ZP330i10410Xc10FMm10o10810810610110810110g10Wxf10PP",
  "610a10m10A110410410zz710Ub30U110u10Sl10zm10E110J110KI510xY410Td10O110510a10110Czc10Nwc10l10F11",
  "0s10e10m10j10A210q10g10W110j10C210w120k10610SEj20610a10410610a20420310c10g10810DZ110630440FWb1",
  "0C310D410i10i10u20a10e10410410610TY710U210y710YNp104106304208204a0480420420420420810620a10420a",
  "204204a0470840430420610440410620410a30830420450410420BOp10S910YSd10TBa10i10k10f10810o10410110e",
  "10g10630e10g10910c10g10ZP310A210M110EO610a10810L210EDa10XEq10SIn10510h10S210Dxc10Gxc10n10b1041",
  "0e10610A340t10R110410K110n10k10Nyc10wyc10s10c10610d10A220X110k10N-c10w_c10QU510HS510P110s10H11",
  "0U110M110810e10C210V120O110B110i10G120v10b10TRk10QG110GNj10b10u10XL910yM910e10E210LKd10IKd10t1",
  "0MWa904204204104506404j0620420410420410820430490610450480450410430610430450Xza10V110DIb10G1104",
  "10k10610G110QXm30410820NSm10FH610EI610CDf10FGi10Cys10xxs10S210k10310110i10410810810UK510Y110b1",
  "0e10y110a10h10n10c10O310x110M410610610S110410E410N110o10F210w210P210y210410y110W110410p10f10A4",
  "10n10G110E110I210m10Xr10Ya10y410G510VX710110c10a20EPb10a10c10610E120h10e10g10l10i10u10f10G110m",
  "10a10A110q10o10D-c10110yyr204204704104104204104R10610c504106o0Dzr10C210510q10L210Q110k10Q410W5",
  "10e10A510Y410n10y210c10K310UHf10110X-910G610Mg10U_410410g10i10s20d10LG910EI910B120Y130X110w110",
  "N110e10h10c10K210-110N120B310U210h10a10y110C310f10e10F110K110a10410u10e10H110-210a10v10G210c10",
  "G110B110-110C110b10M110OGj10Da10420VAk10G110i10H110s20E110g10h10I110d10u10610Q120j10710O110s10",
  "OKgA30XQg10610U110s10v10610o10a10s20A110a10g10FI110c10s10510510G110O110e10k10Kz410i10310SO510_",
  "N510o10510g10g10510BL410Q110wU810GF630810110420420810610310a30e20e1011061011062041041045042041",
  "0a10870430630410110610630410420420410KY160O110610810610810k10aG104208104208306706v0xB210410620",
  "830410410620410810110820420630650410610430610g20310610a20410430810420610p10u306106104206304404",
  "10620310820490610430R310FVe10a10wNf10HPe10Q110j10g10W110zLe10YLe10110Y110j10IPf504204t04F106d0",
  "410410q10a20410610820c10_Uf10310U110yHi10TS210JTf10P-110c10a10c10m10Ls10410Y410IPk10410c50c101",
  "10a10410110420810620410440420410610810410630410a10670a10710c10BOk10410410k10510u10h10A120810o1",
  "0F110110G110110I110h10M110a10310310e10710Y110D110m10610C110v10a10e10m10p10W110p10510810GXh1041",
  "0ob04204R20xzh10C210T110310A210F110610u10j10s10910l10U110C110j10g10b10K110810WV410HO210x620e10",
  "c10410q10C110b10o10710a10c10Cx610a10i10m10410610A210I210t10a10q10S110H110K110410o10S210x110H11",
  "0M110r10C310f10b10g10B110U210h10m10m10K210K110_-910UV510FD510410Qi10MD410410410c10810410630410",
  "110i10L210U210s10610e10a10O110g10ER410KP710g10610OnA30_s10620410a10c20620420620RF910e10Q110410",
  "C110910410110w210V110310C210t10k10710e10N110M110q10s10t10S110x110k10h10310U110c10V110K310g2091",
  "0c10F210G410J310M110J110d10d10E310810t10A110410610710U110Q110Z110e10i10H110I210k10H110510f10s1",
  "0g10G410_510W520510V110A110H210E210w110P310A110S110P110l10o10y210Y110d10U210QI9i0e10C110c10820",
  "c20810q10670640810410430820450640410440460410440440410410490410470430_T910x310510Q210L110H110Q",
  "210U310R310i10310Q110g10L110I110B110k10C110u10j10s10Q210510J110o10C110c10Q110610LQ410o10420WM1",
  "10LR310610m10920C110l10C210X110Q310t10r10B110K110610B110a10110u10m10_110U310410J110A310R210C11",
  "0610s10q10R110A110110-110M120C110n10t10m10F210K210r10c10i10i10w110v10m10C110510m20810E210r1031",
  "0G110e10l10YPf104604304b04304b0420480640c108304104104204H10XVf10m10710E110i10110yx210620410P11",
  "0QF310FC330k10410d10610q10610f20k10c10a10410810m10a10i10MB310e10610A510e10-710By410410g10g2041",
  "0LT110FTb10QUb10o10110410810A110k20810c10a20910510E110C110MY210Lyd10ORc10u10e10A110710a10610a1",
  "0a10VP110-710-210g10S910I510wBg10710BU810C110A110510A210T410c10Li10410CQ210c10320K110QB5A30RH5",
  "10110u10d10c10s20n10410a10G110d10m10510810C120e10630c10110c10JW210SC910LM810G310U110I510A110Hb",
  "10k10510310k10E120610810v20o10J110M210m20J110M110410N110K210n10O110i10410q10410l10o10m10c10d10",
  "710g10n10Q110f20u20f10M210c10c10p10a10C110k10a10710o10410LC110k10g10910G110710RPj10WDi10g10710",
  "410AA9A30LF910c10810-410Qe10wC610T610k10710O110910e10e10110Y110610610s10EE410610460410x810q104",
  "10HF410620C110810FRf10CSf10DF210A210U110M710Y210A610V310-a10w210IB410610640JGh10QGh10610430420",
  "a20660450410420480640e40620z8A20420410620a20410610810640810q10410610k10a50c20g20g20a20J1506304",
  "30620410610LW210i10o20410W110710f10u10410wP110110e10Cw110Dw110810410a10110a10510i20a10I7103108",
  "10410110a10810RG110K210C210O210110Wo10410a10i10710A110r10o10u10e10810o10810UZ120FIg10OEg10a206",
  "10e10XL510OM510410Y330610110610e10310310a10a10G310k10610k10310c20c10BG1A30EPC1-20xUC1A30APC1-2",
  "0XUC1A30yOC1-20TUC1s0c10610e10410810e20810q10610430410610810440610i206104a06204406204606904104",
  "60440IKC1-20_PC1904304204106504404308104204304208106104204104106404904106104c04106104204304104",
  "60410490420420WHC1-20NNC1504104104106504b06N10620mc0830650OYM110w410Y110E510k10N-a-20Kwa404104",
  "20810e30420630PwF310KZy230HZy210--210X210zx210610SSY110LBV110Y710n10DY310m10ON510L510wJT110L-S",
  "110A110I910Fa10M-S120RGS110Ai10E710RD710UYy210RHE110xQY110Yw810Sg10BL910SIa10HIa10620IYy210TIS",
  "210910BPa10ESa10Sf10Wo10J110wWM110LJM110c10G510C110FMc10wHd10G310610a20420S110710Y110110IAL110",
  "WJE110DxN210730T210W210C770K910wAJ110wKC1-2"]

/-- The four-byte ranges: the first pointer of each range and its code point, in
ascending order. -/
def gb18030Ranges : Array (Nat × Nat) := #[
  (0, 0x80), (36, 0xA5), (38, 0xA9), (45, 0xB2), (50, 0xB8),
  (81, 0xD8), (89, 0xE2), (95, 0xEB), (96, 0xEE), (100, 0xF4),
  (103, 0xF8), (104, 0xFB), (105, 0xFD), (109, 0x102), (126, 0x114),
  (133, 0x11C), (148, 0x12C), (172, 0x145), (175, 0x149), (179, 0x14E),
  (208, 0x16C), (306, 0x1CF), (307, 0x1D1), (308, 0x1D3), (309, 0x1D5),
  (310, 0x1D7), (311, 0x1D9), (312, 0x1DB), (313, 0x1DD), (341, 0x1FA),
  (428, 0x252), (443, 0x262), (544, 0x2C8), (545, 0x2CC), (558, 0x2DA),
  (741, 0x3A2), (742, 0x3AA), (749, 0x3C2), (750, 0x3CA), (805, 0x402),
  (819, 0x450), (820, 0x452), (7922, 0x2011), (7924, 0x2017), (7925, 0x201A),
  (7927, 0x201E), (7934, 0x2027), (7943, 0x2031), (7944, 0x2034), (7945, 0x2036),
  (7950, 0x203C), (8062, 0x20AD), (8148, 0x2104), (8149, 0x2106), (8152, 0x210A),
  (8164, 0x2117), (8174, 0x2122), (8236, 0x216C), (8240, 0x217A), (8262, 0x2194),
  (8264, 0x219A), (8374, 0x2209), (8380, 0x2210), (8381, 0x2212), (8384, 0x2216),
  (8388, 0x221B), (8390, 0x2221), (8392, 0x2224), (8393, 0x2226), (8394, 0x222C),
  (8396, 0x222F), (8401, 0x2238), (8406, 0x223E), (8416, 0x2249), (8419, 0x224D),
  (8424, 0x2253), (8437, 0x2262), (8439, 0x2268), (8445, 0x2270), (8482, 0x2296),
  (8485, 0x229A), (8496, 0x22A6), (8521, 0x22C0), (8603, 0x2313), (8936, 0x246A),
  (8946, 0x249C), (9046, 0x254C), (9050, 0x2574), (9063, 0x2590), (9066, 0x2596),
  (9076, 0x25A2), (9092, 0x25B4), (9100, 0x25BE), (9108, 0x25C8), (9111, 0x25CC),
  (9113, 0x25D0), (9131, 0x25E6), (9162, 0x2607), (9164, 0x260A), (9218, 0x2641),
  (9219, 0x2643), (11329, 0x2E82), (11331, 0x2E85), (11334, 0x2E89), (11336, 0x2E8D),
  (11346, 0x2E98), (11361, 0x2EA8), (11363, 0x2EAB), (11366, 0x2EAF), (11370, 0x2EB4),
  (11372, 0x2EB8), (11375, 0x2EBC), (11389, 0x2ECB), (11682, 0x2FFC), (11686, 0x3004),
  (11687, 0x3018), (11692, 0x301F), (11694, 0x302A), (11714, 0x303F), (11716, 0x3094),
  (11723, 0x309F), (11725, 0x30F7), (11730, 0x30FF), (11736, 0x312A), (11982, 0x322A),
  (11989, 0x3232), (12102, 0x32A4), (12336, 0x3390), (12348, 0x339F), (12350, 0x33A2),
  (12384, 0x33C5), (12393, 0x33CF), (12395, 0x33D3), (12397, 0x33D6), (12510, 0x3448),
  (12553, 0x3474), (12851, 0x359F), (12962, 0x360F), (12973, 0x361B), (13738, 0x3919),
  (13823, 0x396F), (13919, 0x39D1), (13933, 0x39E0), (14080, 0x3A74), (14298, 0x3B4F),
  (14585, 0x3C6F), (14698, 0x3CE1), (15583, 0x4057), (15847, 0x4160), (16318, 0x4338),
  (16434, 0x43AD), (16438, 0x43B2), (16481, 0x43DE), (16729, 0x44D7), (17102, 0x464D),
  (17122, 0x4662), (17315, 0x4724), (17320, 0x472A), (17402, 0x477D), (17418, 0x478E),
  (17859, 0x4948), (17909, 0x497B), (17911, 0x497E), (17915, 0x4984), (17916, 0x4987),
  (17936, 0x499C), (17939, 0x49A0), (17961, 0x49B8), (18664, 0x4C78), (18703, 0x4CA4),
  (18814, 0x4D1A), (18962, 0x4DAF), (19043, 0x9FA6), (33469, 0xE76C), (33470, 0xE7C8),
  (33471, 0xE7E7), (33484, 0xE815), (33485, 0xE819), (33490, 0xE81F), (33497, 0xE827),
  (33501, 0xE82D), (33505, 0xE833), (33513, 0xE83C), (33520, 0xE844), (33536, 0xE856),
  (33550, 0xE865), (37845, 0xF92D), (37921, 0xF97A), (37948, 0xF996), (38029, 0xF9E8),
  (38038, 0xF9F2), (38064, 0xFA10), (38065, 0xFA12), (38066, 0xFA15), (38069, 0xFA19),
  (38075, 0xFA22), (38076, 0xFA25), (38078, 0xFA2A), (39108, 0xFE32), (39109, 0xFE45),
  (39113, 0xFE53), (39114, 0xFE58), (39115, 0xFE67), (39116, 0xFE6C), (39265, 0xFF5F),
  (39394, 0xFFE6), (189000, 0x10000)]

end HttpCall.CharsetIndex
