/-!
# The JIS X 0208, JIS X 0212 and katakana indexes

Pointer `row * 94 + cell`, both counted from zero; pointers from 10716 on hold the IBM
extensions that Shift_JIS reaches. The katakana index gives the full-width katakana that
ISO-2022-JP writes for each half-width one, pointer `code point - 0xFF61`. Each index is
written as runs of consecutive pointers that map to consecutive code points. A run is
three numbers: the pointers skipped since the previous run, the difference of its first
code point from the last one of the previous run (even numbers for steps up, odd ones for
steps down), and its length. Numbers are written in base 32, least significant digit
first, with the digits `0`-`9`, `a`-`v` ending a number and the letters `A`-`Z`, `w`-`z`,
`-` and `_` continuing it; each text is kept as a list of its lines.
-/

namespace HttpCall.CharsetIndex

/-- The JIS X 0208 index, line by line. -/
def jis0208Lines : List String := [
  "0AAo30UQH310410FBH310-BH320810x110LGH320P-n10YI_310PJ_310MJ_310Ka10Ha10DEH320B620V910UNf10PNf3",
  "0Kf10NO810910-PP310w210E210RTO310OTO310LTP310110p20620WOP320JPH320MSH310410y110410JVH3a0UPH310",
  "410XF_310M210A210MC_310ZLO310YLO310410PLO320R410M110yA210310_Yi10EYf20Ad10EOP310Be10Yd20Xd1031",
  "0610810M110RH_310-Vi10110T310810110d10110J210110G110110m10110BY210Oz710_H710320410AI71bVA71061",
  "0W720920R510118320UxO310_AP310410Y21061bw110K810w610_g10a10U510t10Q120B510G210_110Q110j27Bg10V",
  "f10-D310310510TE320VWf14STi1fCSM3a7gq6eq4RRH3T2bsW28JWmh0478gh047G1O460H110K1qf260Y110V1qdCLg1",
  "0410k10810g10710g10A110f10A110g10V310410o10810g10710o10A110f10A110A110V210u10d10u10g10D210G110",
  "l10G110k1WdDek0FR1a1A-810J310s10W210J310u10H210G310W110c10T410S110510g10-110t10C630v20K310F218",
  "L210xV110410RQ710OL910XK910GY850N720e10Kk10110110TS810u10L310610Z110i10W810J810110Aa10T810n2-5",
  "EHm10UH310wO210YDu10zXA110WF610wA110DT410YCr10Zw510Rl10XM410Lwc10OT110IE510PD410SHf10_r10-Uc10",
  "DWp10XW810UH710_S110LN310Vs10WKm10SH910DZd10Y510Aze10PXs10SId10QB610xSm10YS110IF210yY110Cr10-X",
  "m10Ms10xDo10TGc10K210G410A510Ya10SK310KE110w910w210QA110MN210A310C610GK210EP110Kx310KJ210C210W",
  "I210Ex110E410IN110WU110KF210-J110GV210K210zTu10LK210A110UT410GNk10-A810Dzb10zOl10CP510Cxa10MZg",
  "10LAb10MP410Z910Iwc10xOF110-C110wk10I210-v10WR110UR210wzs10NQl10SP910SE210KT810s10A310Wl10_-B1",
  "10P110IZ310QUa10yO710KA810MS310RXB110w-E110DKh10RKm10EIl10SW410Lz910xAc10Hh10SBb10w_c10CSb10LF",
  "B110XD310wxc10MX310GLg10ZUv10Bx310UxA110OK310Fw910wxa10VSC110Kt10UX210CE210-K310Gd10Ch10ID210W",
  "b10M310ET310wG110MY110M-e10FUa10UW210KA110wI410VTi10S_310-h10WPh10zRs10WFl10SI110QC410HCm10B-a",
  "10NC110YY210yh10Ih10AH110EU110Ej10CY110W410WM410KF110Un10M810K410Y710Um10EM510KH210W510MM110SM",
  "510Wv10AM510DLC110GV610yJ310WM410XSh10KT310O310WB310Y510AO110yT110AD210wf10w810Oz310MD610KZ410",
  "Mz910x110Mr10FCB110K_710KOb10NHp10OU510WW210ABg10_Uc10W-410PAi10Cq10yX110CP610Ay610MC610Iwe10P",
  "-E110WQ210PC210O610P110I610x210wS110-k10UB110MQ110Er10Kf10W210A_e10TU910Kh10U110MZ110Om10Qx110",
  "OV110Wy210C310y710Wk10US310U210S210G710Q710X110GZ110YU110RIq10-Hr10yT110Q610AN310HJ810LMr10IS6",
  "10SS210QE810EO110UK610Qd10CE210Ey210KA510yE110Ec10TQF110-410SMt10JQp10Ym10A810CD310Af10-310U61",
  "0D310ym10E410yb10SG110QAr10VNq10UE110OM210SP110YN210Uj10-O310AT210IV210EZ610Gg10B_410XKt10wc10",
  "QF310FG210AQ310Gm10EF210UB410wC210yN510yD610YY110WB110KT410CR310XUm10YDm10zM910LTn10YF810-Mf10",
  "AU510VYv10IA210FI110-M510yA210Qt10GY110710GY110Ox310QU210Cr10-S710Q310SZ110Qp10Uu10ML210Cf10Kd",
  "10FAu10wk10UM610ANn20FLq10KYb10JP810I510Rs10OVp10xKm10ZOe10WS110GN510YH110-E510Yc10Uc10UYa10KL",
  "210ID310_SA110KCH110FEE110KSa10-h10UUm10TVn10xMb10OWk10--410US610Ar10BTu10wMD110LQq10GOd10Yi10",
  "XY310ZJl10wLo10zz610PGj10Kg10wB110ED510Py410yc10u10IR510BG410AJ110Yr10Mq10o10G410OJ110e10UC110",
  "Y710I410W510wB110Oo10-G110E810Oa10IE110K110Ig10WM110K710D510WW210Q610Ws10Q210I_110Ea10A810Qs10",
  "wk10Ub10wa10Ss10Qj10KB310Sh10-t10Sz110wy110Ek10310C110Gc10ym10Kl10_Qb10_zp10G_210wI410Ih10wza1",
  "0GK110Af10FJd10EUh10AS610Mx410Al10G410810NVE110q10GG210WC110Yc10Ep10wk10Es10Wb10Yc10Yn10E710yk",
  "10EC210YU110Fm10m10wj10Yq10d10Wp10zC610KZ610E510M610EQ410Sy110J-e10wJf10AQ110FUe10Ezk10S810YJ1",
  "10Gc10Kl10C510Ky410Yi10yi10XLG110wv10G810GJ410SA110GJ310C510YG110yE310MW310CP110Mx110EG310EF41",
  "0CM110Ib10Hyj10yBg10Mz910NZB110b10Qq10SK910IA110QBg10RE910DL810QVr10RVF110yC410QXi10MT210Mx410",
  "x-A110w210E810U410SL210y610MX310KW110Eh10YS210Yu10KQ210A310C710KZ110WY110GH310Q310U510EB110X11",
  "0Q610zXb10IH610_Jf10UI410Gq10UO210s10S310OQ510UDc10Oz110Yw110WR210N_h10KK510Ixg10DLG110620-e10",
  "a10Cj10M710-wk10JYk10K810yl10F310y510Y610Cs10ON110yF210MF110G110Ke10C210w110EL110UD110EP210MH1",
  "10CA310W210EQ210SQ410q10Gg10MU110Sw510UO110yB210Ql10Gg10TWF110wO110AF510IF510YO110ZS610EL510GI",
  "110IB510RT510CDa10Xxl10-B110GG210OL310QSq10DYm10-X210U110OP410wU210Y310yo10-H110-O210Gh10GL210",
  "Ae10Ut10QJ210AA110Dxu10CGv10FCC110St10-w110Va10wZf10-b10GF210wP510Sy510OR510410k10VFE110Gw710I",
  "Ui10xKo10UMi10HAl10wV510IHq10yD310FFE110SKe10YQj10LZq10h10AV310OQb10XA710COl10FB410NLa10_R410y",
  "Pi10LAd10VGa10SFb10zBb10WRl10THA110Si10AZo10QG210zG510SS710IB110VXu10ESq10NU710zXk10Yf10Gl10Zc",
  "10-A210Ut10wLe10zFe10Ms10CB310E210Cf10Cg10t10E410SA110Q810Ej10Gg10Gt10Cz210GV310ON210yL110C510",
  "w410Eb10Ai10Gw110Y310GY110WT110W510Gg10OZ110wR410KX210NNd10MR610UB610BWE110QZ710IG110wT510SNj1",
  "0PFn10_wb10-Id10Ul10UN110AS510YN110AP510Gu10VRh10DBc10Gk10F110-310Oh10Yb10W210IU110Qm10Mf10OM1",
  "10yC210QL110M410Wf10-710Uw210wg10IF410-210E810MO210W510UQ210ZG310wZ410EO410yo10Ss10Av10Cp10ER1",
  "10KQ110Wt10yr10KG210JTG110YF110I110QM510Wa10KP710K710IP210U710KU410IP210Sy310Uf10MV510DAE110wr",
  "10Sz110Q910yH110ON110Gp10wI110Ub10Y710CR110wQ110UG110OK310UH210U_410U-510FB410A410-Q110yF110SD",
  "210CW110-E210AJ210Aq10YK310zHI110310W710WD210Cg10l10C_210wV210K110yf10QA410Ou10Yy410OC210wB910",
  "c10Gd10SB310DTB110WWG110JSG110Qd10G310U610510Gj10G210Gj10U110K410Y910S410y210510Wn10Qs10C510Wt",
  "10Ot10i10E310MF110410A110C810m10O110w110C610Uj10Uf10Wk10C410-c10Ip10Oc10C410Cb10S710Ib10M710Ij",
  "10IJ110Wc10-310Mc10y610KJ310Kl10Ku10Gt10CK110K210G110M410G510IG110D110Ya10410Ga10W310W910Qi10U",
  "P210K110UL110Oo10U510yy110Wa10Yf10DDd10wLd10QK110Sa10Qr10Ip10-j10GG110_NF110A510Yk10C110wM210E",
  "C510SO610UIe10KP110UV710xWG110Af10-A110GL110GUh10OTb10S-510En10xYl10VD210OG910zF610HRa10wd10yy",
  "s10Zyj10COe10PFi10-Jm10RTE110MC410I710Ul10Yp10yA310-l10QE210h10GD110Q710MU210yz310KW310IT210IN",
  "c10NKG110Kb10SH210wj10SG410O710g10wA510yJ210Uz310-Y110yE910MU410NL510zYo10OV310II210LH910h10Ce",
  "10GXa10ND910KZ110wl10Kv10Sx110IO110Il10YJ210MT110KJ110KH110UUg10NUf10KZ210C110Ok10zz910Ewb10YK",
  "310KO210QE310EZ310NDC110IM210QC810UBc10OT610ZOt10yY210QOv10_-u10AV810USb10DAm10YF410DR210SJg10",
  "KWi10xJH110yO110CE110Gx710Uu10Ye10Ce10-I910Ed10Ys10wAb10FNl10CVp10HHg10_Bk10zo10wa10Qw410OR310",
  "Qr10Q310OE110wI210--c10QS810BEg10MUi10TIs10Uxn10KK410XOi10ZG810REc10-I110US110-K410OH210Uw110C",
  "d10YP110OY410Iu10Sl10IH310WO110GB410yO210Ql10wJ210QZ310HWp10-f10AO210LLe10110M610K410WL110yr10",
  "b10Cv10Qf10AB110Ae10310M310Cl10wf10Kr10S210Yq10M410UO110QC110Fz410GF510s10W210Kr10Ky110S110I91",
  "0MT310IA310Q710OT110C210E110OX110A610Cf10Gw310Qc10m10510M210E610St10K110A_410AD110ZYm10HOe10Cb",
  "10C510Gs10OA510Ga10yU210Sr10CU110-N210Uw110_A110GY210-H110Oh10wO110S710EN310O210Or10UK110UQ510",
  "xUh10-Cp10_Wv10SEm10Gz810BDh10y_910VWp10yVt10POE110y-210MA210Uj10Qp10Wd10KO210M_610O810QL310YS",
  "b10VUo10CWk10_R410xWl10EYb10SKd10XDj10SOk10XS310A_110JHo10WG510IW310y_k10Tyj10Ez510Az310Sz110y",
  "O110QR510ww110Iq10Nw410G-410VIA110WN110AU410SR510SS410Sr10ORf10Y710Gm10LE810FSj10-W110Qs10xL91",
  "0WZ210Ex310GM310MO210SF210-V310Of10yE310wT310QD610-w110IE410HIE110KM110G910KZ310SY310CL310GX91",
  "0IVc10LCA110XQ110U910-S310U910wq10_-610GR810wv10ID510yI610m10OX110Wg10Ko10WB110E310CH110Mx110Y",
  "i10yB110IO110Wb10Eg10Uh10C210UV210TS210XNB110-810Mv10Yv10EF610WH110My210wG210Us10QV210GM510Ow9",
  "10Mb10zKv10KU210MK110EB910YY510CN210Fp10ZBi10CSc10Jwf10SFr10wZ310LCA110CT610US410OY810OT110ST3",
  "10G-b10RDE110I-610EE310GY110UB110UG110Ga10yc10UZ310MB310FTf10IJp10Eh10-H310_BD110O310GC810CF21",
  "0Q410CU310HW710YRf10Aq10THc10OLf10Q410CQ210zEs10Aj10UZ210YR210Cg10Kc10-Ip10AY110ZwC110Q610yr10",
  "G410O210Ka10Yf10y510J110Me10CV110M510y710Sn10C510i10410i10UG110c10M510A910-Q110a10O510Cb10J110",
  "AJ110a10C210S410Qg10Ii10wn10M110OI110Yc10C810-410IO110L110C410AG210Uj10Yl10Ia10I610W810Af10C31",
  "0Mp10E910wV110AU110Kb10yb10IR110M910Yi10w110Q110-110yu10w710MM210Ec10Qh10U910II110Yf10xYE11031",
  "0M110S310AU110Sd10yV210M610Q910MF110MR110wI110SD210GG110l10y-210EX210wL110AP210KF510UL310ME310",
  "Qm10zOu10Gs10UQA110BBr10AC310SI110OF310OG610GC110Wv10IX310SP710TY810YF410LXp10FQ610Sa10X210EV2",
  "10SR210wr10o10Uz110Wo10Cu10CI110W910GK110wa10wz110S710EU310M810Mm10-D110Q810wU110AL210Yc10WP11",
  "0AA210A910CH210Af10O910Wq10US210ZEE110e10EU110EH310O710-R110-Qc10ZNc10CRi10YL410Wx210yJ310Ug10",
  "PEe10Uw710ST610LK310zGt10VU110-Gu10xzt10SU110GK310GY210YI410MF210ON310US210KV110AJ410Ez310Eh10",
  "Yr10g10OX110BDh10MGj10Zxu10E610OA410ED110MAj10GT410ZWp10Wz110At10YKd10EFa10Nl10Dy610TXc10TQ510",
  "DI410D-610MBh10CT210xS710VGa10E710Ya10CP310yw210Ma10Su10-S110K310Wa10K510yH110Xd10wU110EK110wG",
  "210wK110Yr10G-210QZ110LWj10wAo10E810Ci10p10Q310EV210Kn10Ay210e10_yo10KIa10QP310Kxa10xIs10-K110",
  "yj10WY110-610Yn10GG810UF110AA110Cv10YM110Ew510Qb10w710y710Lxa10DKj10EN810Yc10w910Tq10KZj10Tw71",
  "0wj10YO710yD610HXc10MJ210wT210_Gs10-G110Wv10w110GE410-510I110Os10SE210C210SG110GW110C210KJ210Y",
  "710x210HU210SY310Ev10-210Dx510ILa10yi10wC110A710yl10Et10Ca10y110wW110QM210AG110Oi10GI110110MD1",
  "10X110EP110WC310BWE110OT110Ixc10yv10xyf10wBk10AN210yV110JO210DIj10KA110OF210EQ310IV110110wF110",
  "-X410ML110110AY110Q410S810QL110S810I210GM410wC210OA610Tz210-L710RDH110yo10Ol10M110Rz110Cw210IU",
  "110C610yOc10DLb10Sd10NU410My610A110SG110O210H410Y710Eh10Yh10Ah10LR410U-510A310QR210AN110XVh10A",
  "Wj10-g10WZ110YE110Af10F310KM110QO110u10Ih10A510-j10UM110WK210CJ110Y610US110KY110MP110FUE110Qy3",
  "10OP410KEg10EW110Gz310QR110ZFA110Cb10Gt10Yi10YP610UN110MB210wM310OYf10YG110PEA110OI610YGo10VPj",
  "10Wyb10PEl10IUq10_Rr10wE910VG410G110-910GA410IU110WQk10LYA110IE510A110MU910C-e10FRq10ON110Ap10",
  "WU310Gm10yW210IHd10_Nc10WOm10IY110I610JNF110GL410Q_110EBi10zVh10yn10Ml10W910Wi10Se10WM210C_210",
  "yu10A_810Cb10Kl10Ox210wC210QU110y210YF310CF410_P110PPG110wQ210OT210KAh10CGb10-L310ww210XRn10Uk",
  "10HNe10Cv10CE310GN310M410K310-y410wU110GD210K_a10CC510NHi10wTd10Ly310BVo10CRq10xQp10110FK210yQ",
  "A110Ha10LEr10Oyj10HTh10wOe10KNa10JOj10wVh10zTc10AVk10VAp10GHg10NHu10-R210yK110Am10-V510wd10IE1",
  "10QW210GJ110U710EF110AU310EQ110Wb10CB110EI110S810KA310Uy110MM410PHu10Iu10OH310-G310Se10U-110Kj",
  "10EY410AZa10FKt10Cyj10JLg10W-310Uk10KB310M-210IZ410MC210IV210MI110IS210wS410yW410T-e10ZG310wZ2",
  "10Q510GX410YU510NCb10Sa10IK410JFk10-Fe10FRk10Kc10OK610OE210wN110-X110Kr10OP210GYc10YA110Is10GR",
  "310Kq10wN310Rxn10-A310IQ110wx710An10QF410xKv10KU110K810Ay110UG310CC110w110y410G910C210M310S410",
  "yD110-h10CZ110W710CF410IO110QO110AA110UT410Kc10-310y_210SU110w110SK110y610OK210wN110WI110GO210",
  "_BF110EJ810wZ910zz710GX210KU310MPc10WO310KM110xUk10RIa10EH810yb10CDj10wZ110zxe10-Dd10_xr10Qw71",
  "0xE210OE310PLd10S-f10HV310G-j10JJ510DX310Awa10JBl10CD310LAc10wo10KD110AAh10DQ510_Bf10Szu10Cz51",
  "0NQH110Ca10yg10S110ys10WFt10LFs10Yz110MX110GI110Q710Q110U410Q210wm10SC110K810M910-N210CZ110OE6",
  "10Og10w710Kz110OG210Wx310Ie10yV110-s10Ka10K710Wa10MT610RCp10ZI410U810G910-X410AZ310OJ210yUa10Q",
  "W110NRi10Pyc10OM510WO210SKl10Aa10OF110XMA110GP310yb10YS110EE110IW710IJ810FX410Awb10MC110SX410D",
  "wj10XZg10EKe10E_110-X210Wyg10ZwC110EM110KC210E210Kl10IL110ET110KA310Ks10KM310UF410IW610yQ410OS",
  "110Se10AF110PSd10K110_Yi10Y_510NY310KF110yJ310__710Qk10E510C210G310AR110IU110810-f10yD110Cm10K",
  "910CT110St10Qp10IU110Ed10S710G210Q_610zP410O910Hd10IN110Sl10JH910KIb10-Z110Et10m10310Io10W910B",
  "Ul10GDp10Mg10W710UC210Mf10Ek10Ss10Iv10o10UA210wF110Or10GA110PF210VQC110QA110Oj10M_110YA210SZ21",
  "0OP110AI410KJ510ET110-A310AR110-E610ED110Jwq10OCA110PyE110QF610Y110S-610wN210UO210YF110KC110DB",
  "810UR310Cyb10TKh10yF110RGc10SIk10ZU810TO610YKA110VAd10LSj10IYq10VSg10Lwc10O_210QF210-J210MS310",
  "yyf10O-110Ez310DyB110MH910MUl10JMs10WVr10xRv10PT110wZ110-wp10KX210LLd10xN610Czn10R-k10EFo10_wd",
  "10ZI410_Bh10SAb10-Xi10IA410LIl10Bze10Ax610IN110SNo10NOu10-ys10PE610A_210TXj10MO310DXb10EP110wB",
  "410wL110-wt10FPE110-I510GE310AMl10XKd10-y410x410VXe10UIk10LU810Tn10ZT910Co10MY110-h10SS610KN51",
  "0JFn10SL810BL810CZ410Tj10OA510UR710UU610A_110M310Y810G_610VB310FP110_Kk10MJ210GC110UNi10_Ah10W",
  "W210Y510QP310y_110x-e10-Si10QT110-Pb10RxE110AN710UB210Kb10Ks10QB110IV710NH210AI710D110-G710IC1",
  "10_TA110Y-310SJ110G_610ye10C_310Sp10Uxc10Jyp10y-p10UY410BF310TJ410VZ610Zv10EE610TPq10MT110Kf10",
  "GX710EQ210WP210Gx410OR210Cg10Cw210yU110OG510xQk10GE410MO110KB610AZ210MBb10KO210RKG110Ixk10zT11",
  "0MU110-M210zT210_F810NI610WCh10VT510u10J_h10OPA110Lzh10y-310wRd10GV410TzF110AGo10HNe10GLc10MFd",
  "10IU310zGD110-t10WIn10Qz710PYD110AP110Mi10G810s10WC510MC310Km10yu10-L210A110U_210O610yj10Om10w",
  "O410W-110wx110AM310JO810EAb10ZFg10SKj10wd10Dxq10YS110CQ710Un10Yu10GH610Wq10Hyp10O210Kd10wV210I",
  "Q210Kf10Mj10Op10A310E310KO110IE310Qf10MO410Yf10Gu10Ok10G_110Yq10yi10MA410yA110EA110Iy110-N310w",
  "n10_Mn10wC910zZl10Kw510AX110Sz310CF210wF410IN110KI410wwf10BXr10wE910xNj10EFh10EWi10NYt10ODh10I",
  "F110RV110XVg10S810wZa10I-210MPa10Jzj10XH710Ab10KHh10DJ310yKa10NTt10KX710-K510yB110WM110A-210MI",
  "210AQ710wu10IC110TZm10AP210M_810wA210KQ410CF810L310LF710CF110AUa10XWD110WK510AC310Az310SL110EJ",
  "e10Y210QW510XOp10Ow710ROj10Wc10QQ410Wk10Wj10Mm10HC510WF610S910Un10AG110CQ110A310Oc10AQ310QM210",
  "AP410UC310U410-f10GM410Ik10M410y810QK410Q210LJD110wPa10WL310QLb10GE110Sg10yX510NOq10EV610KVn10",
  "xCa10wd10PEr10AW110UT610Hm10QM410EI910U-310yY310-710BZd10xN710yT110GG510R-e10UZh10SSk10XYE110K",
  "D110SD110-D110CP410Uc10YK710Xwb10WRh10K510w310Kzc10RWo10ONd10JEp10Yl10AA110WM310GC310A110O910U",
  "L410xZc10ORr10YE810Ed10P-c10yYd10LQD110My310KZe10CF110DIj10AYi10YW610VY410NTl10UL410yTc10AY410",
  "CC110Ez810U110S710xIA110UQ110AW310QN210YKs10_yD110UDp10GN810N-t10EF610IB410Ey410Cx910QD310DNa1",
  "0FWj10Ix210EM410Kb10IK210-R210EH810Uw310Lyp10V210wQ110Ck10W-110Qh10IF110Gl10110U310wm10WB210Mb",
  "10Ot10W710El10Uy210o10QB210ST310S_210GL110Kt10Sl10Ae10MB110AB110Qh10AC110YF210YC110WC310M_110S",
  "710ZRH110E510Yu10Ss10IP210yF110KJ210Wp20MG110KH210O610Kb10Eg10_Tb10-Yl10SY110yf10QV410Yo10G310",
  "-x210Ix110DBB110YAC110JRC110DE110OI110YU210UA610EI110GT510-P210AO110Awb10FSv10yzc10Vh10LY910YE",
  "310PP210Qz610-Mc10TBn10KOi10ZF910-Ha10YGh10OW110_OD110yu10yG610Gn10ID210JOb10APa10HY510OUh10NA",
  "d10KBq10Xwp10IFq10J_p10Nxc10wj10K-110CP710EH210AY210SRh10NBA110AMn10EFg10PLI110WV910yR610Wa10Q",
  "-a10_Jo10OL910WBq10DVu10Ewe10ROf10Le10MVl10DNc10OIb10ZL510IP310zWj10IPh10XH810-Q510NEi10SE310-",
  "_b10yj10YX210YUf10UD310LFq10XI710N610FH410QG110A710CZ810CN810QRc10CK110YF510TQB110GHc10PZ110PX",
  "e10YXb10MPa10w210MXc10QV310DEt10Sw210COc10xXk10Wt10YH810AU310Oz110AM310KG110EI210NWp10M_a10Cxr",
  "10V-j10XY710FGa10MAD110BOu10OB310GEd10ED810BWr10OW510KFe10KHc10zHB110DK210OV110MW310yRc10Y_610",
  "QZ810RKp10wLc10xFi10K_510WYe10QK410OI210UF210SM410FWn10Wxe10KK710TUp10110Cx510SZ410WJa10WE210R",
  "At10xz210St10wp10Ig10Uz310QN110GC110Ee10IF110GT110Cd10wI310Vd10Uw220Uv10-B210KY710Gs10Ex210O41",
  "0I610-y210NT710PHn10ZI510Cd10Vk10WHu10ML210CN410FWD110-y610LO210GC110-P110ES210A210Oc10WB110yG",
  "110y810GT110Wq10yN110IZ110OY210WN210M710SE210A810QL210Aq10SO110WF110QB310wI110XYr10Gh10CK410Cl",
  "10Cf10QF910A310XD910Ky810KD410yj10FZg10YEe10WIa10Jk10Xzk10ME810YN310wS610RPB110IQ210Wz410Ix610",
  "OO210E-a10A610UX110xXr10Mu10MF410SO510Ul10yV510w710-l10wO910E110WO410MR210T610ZOr10Y_910IU310G",
  "Y410xKg10Ky810XNh10QLd10Wl10wW210Al10ER110OC210I_c10Twd10CLi10NzH110Qx810OF210OJg10Lzr10Q210YC",
  "110RL110Ww110EC510Ww410QO110WT210GW210GS110Wm10-G110WM110QY210GG410Uw210Gl10MK210Gq10ZXC110MTl",
  "10Lwm10wW110-_910ID310KA210GG110Kx610EU610SX310Ix210QE110zDl10zBe10QVa10MZ710-Sd10TXE110E510K5",
  "10YC110Uf10SQ510EG110MZ910UY210OZ410CW710GI210-310I110wY310Wc10XLs10yM210ZVc10Y810KCf10U_b10R_",
  "k10Eo10Kk10GZ610MC110KP510Mr10WH110-H210KT510SQ110TOv10wSD110XJo10Mx210SDe10wi10GU410xHC110wY3",
  "10SI210U310GB410KG110Q110Mz110Kq10GV110U910CP410IB210w710wM310GY410BWv10MSG110zQi10OQ310OK910X",
  "F410RKt10-F210K-q10NQf10UVg10Zx510LDg10-M310EFr10RVH110110QXG110Jw810TK210R510PGe10yX210SB510y",
  "L41L1REh10XP810a10K110e10a10c10610610I110410U210610M-u10B-u10QYp10JQh10zH810A130410s10610610Q1",
  "10110h10410710K110e10u10r10Q110E110C510T210W210410b10v10-210E110e10i10Z110D110e10C210D210O110A",
  "110Eo10Hk10m10B110k10610j10i10j10I120K310s10H110M110910_110Re10Ud10W210g10610x210t10E210l10w31",
  "0810YLb10xKb10910f10E110710M110o10g10U110J110-210310O120N110u10I110g10e10g10j10m10m10710I110f2",
  "0I110110110c10e10S110510a10110820E110b10g10s10MZk10zYk20810E110410MV210XU210510c10410410420s10",
  "410710e30g10320310a10g10g10810E110a10KHq10XGq10810610a10i10c10e10i10b10S110610810a10c10M110l10",
  "e20E110j10M110k10l10k10o10310A110e10310B210O110i10ORu10110VPu20u10d10o10o10k10e10a10610OAD110Z",
  "AD110G110410620q10410ADh10VCh10610110c10a10i10o10410410a10g10c10110xS210ET210810Nn10Qo10m10a10",
  "Uw210ZZ210710m10I110k10c10110i10410c10q10-Ek10OMd10TPB110wR910EP510__e10b10a10q10e10Y310610H12",
  "0u10r10g10p10n10C310C410T110S110z210E110c10d10E210N110a10j10s10o10j10C410J210M110F110e10Q11081",
  "0_110610O110x110U110310Y110q20S210a10N110t10110q10P110O510e10G210N110x110y210N110C120z110910U2",
  "10Y310R110Bd10Wd10K110H210610U110c10A110D310e10M210D210C210E310J110U110V110Q110g10v10A410Z110-",
  "110P110110y110D210K510410-Yd10Vwd10410710c10G310d10J310w310310Y110b10k10M110n10910M110i10g1031",
  "0s10b10a10410510g10c10610410810O110m10e10110a10a10110610410c10a10310zk10Kl10k10C120M110F110a10",
  "u10U110O510P310N210y110k10k10q10G110t10c10c10G110610s10320O310H310q10Q210s10810K510B510C410N11",
  "0K210AV910xW910J110Y310o10I310T110o10u10I210F210510j10O110s10310c10410110q10h10g10910A110m1011",
  "0430a10g10c10m10WY710BY710e20a10c10c10IZg10ZXg10910310o10310k10310e10a10510u10i10Y110zD510w410",
  "Q_410u10I110E210n10z410Y420W410b10r10m10F110C110M210Y210F210H120Y210g10A310E210410q10h10910M21",
  "0n10u10610F110I220C110110m10Y110D610U510o10g10a10410910C110810a20k10810e10610410610AB510xA510c",
  "10610G210E110m10810410m10710I110410710710e10c10a10c10510E110420a10c10q10410c10A120g10a10g10a10",
  "510110xd10Wf10410XA710IB710610G110a10610RP110AR110A110910c10910s10d10i10E110A110I110510p10-910",
  "Da10C210k10410K410Z310710j10610s10f10110110I310c10710510C210e10610C110510310A210910u10410u10Z2",
  "10O210a10q10810c10110810a10A110e10610M110u10110f10k10W120q10110510s10i10510m10610410Z110y22081",
  "0EEA110ZDA110C210C220c10g10110e10q10b10520e10110e20610a10410510810810c10a10c10I510110B510c10a1",
  "0G110810m10i10e10810410z110E210a20410g10o10c10810o10110510m10310i10j10O110910110g10g10a10u10U1",
  "10K210N110I110d10H110Md10Hb10E210-310N410h10S110V110G210L110b10M110910N110W210A210R110S210q10P",
  "110J110710e10M110_110C210D210U210110D110Q210o10U510H610O110L110O110920910K110X110M510R210Q210p",
  "10z110Hc10wc10i10B110G210K710P310t10v20i10n10c10i10y110L210j10Y120S310h10L110110G210l10510v10g",
  "10i10a10410-210810z130C110i10910j10o10D110310j10E210I210510t10K210P110c10v10e10U110610y1103101",
  "10y210z210910610n10C110ywe10Xwe10S110510G110810b10m10310110410410g20810110g10e10610610i1081041",
  "0420s10q10A110a10f10a10g10I110c10e10l10I120610y310B510C110G410b10L110I110A310R310yA110XA110I11",
  "0v10310f10a10X210y210G410x110610M310J210c10R110c10W510D110u10-c10Zc10O410f10r10W210J310w210H11",
  "0b10M110M110T410310K510W210R210c10w110T110i10I210D310E510y110x210q10G110A110Oe10Lg10C110R110Q5",
  "10g10e10P210Yd10J910310E110810B210I310y110f10p10410n10w110L110-210j10ESe10RSe20JD110OD110o10w3",
  "10L310310310g10c10510W110810N110-110110g10i20410110410GB810FA810s10110f10m10c10110K110c10k20OA",
  "j10z-i10810o10o10o10610910610g10c10i10310e20A110Co10Pm10d10f10Qn10xj20310P110G310l10a10f10w110",
  "110e10620h10610s10G110a10c10910910I110a10I210f10A110l10310g10n10y110810c10Ba10Oa10610e10a10410",
  "Q110e10g10g20CBo10TAo10C110h10m10h10110u10Q110410d10k20K210R110S310Z210D110E210110W110910X110E",
  "310Q310V310Q310R310M310B310Y210b10110a10o10J310K110f10C210KL110xH110Q210Z110O110q10V110Y110K61",
  "0P810y210k10I110g10A210v10y110R110i10310P110WC110Jv10J410C410J110U110K510D810t10G810N310y310_2",
  "10U410810J410W210z310e10G110D110C610H210r10Z210o10E410X210R110u10S310410v10i10310V510Gb10310V1",
  "10Y110p10N110U210v10J310W310N310Y110R210C310510110I210N110Q410710E210B110410E110J110A110L-610E",
  "-610G110D210g10X110O810Z910u10710d10-110U210k10U110S110X110Wg10Bh10d10l10y110H510w610B310O210R",
  "210-110g10-a10x910v10C310P310M610X310E410B310W110h10q10x110v10L110y610510G110X110y120n10AYd10X",
  "Vd10g10110j10910d10E310p10s10J310A310A110C110k10CRd10XRd10Q110810WBo10DBo10S110110Kw510Fw510Kx",
  "m10Nwm10710c10e10i10910e10810410O120c20810110k10m10510i10c10c20810610110410810a10k10a10g10o10q",
  "10110g10710-Mp10LLp10m20e10i10110W310h10q10g10Q110m10q10R110U110Z110L110m10-110310I310w210x110",
  "L110U110D110Q110z210610q10710C210I110L110C110K310ySd10NRd10l10E110910z110Y110310B210b10O510A31",
  "0z210j10-110_110K310e10-E110zF110I710Y110l10J510E110-110x210s10M210r10D110Y110L110p10K310B210m",
  "10t10K110810-310C410_310J110S510F110B210V110Q410_310W410R210x210I210h10I110T210Wd10De10W110U41",
  "0Q210D110C310D110Y110L110r10K110D110E220L410M110w110F210Ea10_210Wj10_l10o10c10C410Z410-310D410",
  "G410L610E710V210X110-810n10310i10110B110H110Q910L810K110b10H210M310610C310X510w410v10310610K11",
  "0q10X110K310j10O110P110810S110510F110y210410B110O110v10s10B110w110110La10Sa10910e10C110s10n10-",
  "110E110M310d10w110E410J410o10910910C310H110E110710A310n10-110510Y410v10G310D210710L110k10M110G",
  "210Y610N710C110G110810W210x110a10I110h10m10b10E110o10910s10e10510c10s10610m10q10a10110810410i2",
  "0620c10a10q10Y110k10810110c10m10810o10a10E110d10C110610310k10810A110320Q110310POh10QQh10p10E11",
  "0b10e10O110910b10710S110A120SYl10BYl10G110310g10g10510c10110y410J110W110F110a10K210i10v10Ic10Z",
  "910U610T410Z210U310g10W110L110A210b10P110W110q10e10p10e10o10g10q10G110i10G210a10a10Fe10-e10610",
  "810410a10810320e10110q10110410e10410110g10310m10g10c10A110g10i10510110E110J110I110u10910610810",
  "410m10310A120F110M110110d10E110c10610g10310-110t10A110r10g10910810l10Y110510g10e10k10910A22051",
  "0a10B110k10f20Q110410710M110g10d30410A110710m10o20310M110710i20c30510a10810410810410810810610a",
  "10610610g10510c20M110810830g10m10i10710o10610810410610KU710HT710q10110510K210910b10e20l10Y120u",
  "10G110s10610v10k10U110110910K110510c10u10310E110c10610c10520310o10c10k10610410e10m10s10A110c10",
  "Ih10Lg10Ug10Je10S410T110E110j10y110r10O110E110l10a10E210l10a10i10L110310i10a10E210910p10G210h1",
  "0G110m10110g10G110110K110A210h10g10910910310O210a10m10G110k10Iwi10Bwi10810a10c20u10o10E110a10l",
  "10410K210a10m20e10110z910Cb10k10610d10o10I110r10Q120e10ITi10ZSi10i10810m10u10310610310G110-110",
  "P110c10u10110910Iya10Xxa10610610410c10310c20610820810e10610E110q10910710w210V120a10O110p10s10U",
  "110U210L710S410D410C410d10A310v10u10p10i20910410-210910e10D110u10310t10e10510D310Y310E310j10m1",
  "0610V110E110O110o10Q210610x210110W710_510e10o10_110810A210j10N110w210810610l10Q110n10E110u10h1",
  "0C110910t10A110g10e10a10r10u10e10i10s10q10I110i10l10i10j10e10m10110110510m10810610a10510M110b1",
  "0k10c10SFf10XEf10610410410810o10710U110d10l10W310c10Z110810q10j10C110w210Z110f10I210j10c10z110",
  "I110A310j10x210I310D110y110-110n10l10E110E110j10D110E910V910q10w210H210R110C110Q210a10e10b10w1",
  "10h10B110I210a10S110310t10-110D110L110410O110I210A210V210b10810k10n10910g10w210j10d10g10920-11",
  "0t10110G110110g10xa10Qa10CT810zS810i20610c10310620410f10q20Y910410m10e30420810110810e20g20310C",
  "110k10810510a10110a10g10k10110510i10o10610e10l10g10410Sx510Xw520810m10110q10a10610k10c10GOc10L",
  "Nc10310e10e10c20610a10e10O110710u10710o10c10410a10610c10m10110310c10610810410a10410110M110f10e",
  "10G110ZRn10YRn10-210k10n10810R110M110710G310T110410U210s10b10o10Y110AUa10JUa10f10K110310J510K7",
  "10510h20s10u10a10410j10410y110l10u10110H410I310M110e10a10i10b10a10610410f10u10810810g10110v10E",
  "110a20e10G120610620610410610610610c10G110410q10910q10S110110a10510a10a10310c10420Z310G410c20c1",
  "0u10a10S110n10Y110t10K310410710p10E210110e10S910_810f10310V110Q210T210w210_210Y510110x110Y1101",
  "10u10d10O110l10L110710H120w610K110A110l10610n10F710W610d10610r10S310D410410W210N110-110Y410-11",
  "0P210Z110-210c10V210G310T410M310A110N210E110W110K110310F610W710yc10Vg10E710F410E110yh10Ld10p10",
  "n10E410z310I110R110F210T110G410k10H410K910P610O510c10_110U310n10D110-110j10t10a10A110J310A810D",
  "210l10G220I110p10j10110P110I410G210l10v10d10Cc10Nb10k10W210I210X110i10d10y110V310O210e10-410F6",
  "10K110J210e10E110S310t10K110L110O110a10g10g10h10w110C110i10f10p10710o10Y110f10M110u10s10P_r10-",
  "_r10m10g10k10E210A110c20z120U210d10K110410L110S110Ul10Pn10S210k10m10610p10710I110G210n10410f10",
  "610f10M110f10810H110C110U210m10f10810L110810t10M410110S110X210410M210Z110C110c10J110b10A110e10",
  "W910F610510Z110w210Y110r10610A110MQ710VS710S110B110I110110l10I310610D110-210310t10f20O110X310-",
  "310a10110q10110A110a10610D110I110i10310A110e10a10810i10M110510A210R210g10Q310F410A110K110910Y1",
  "10J110i10J110O110o10u10r10E120A110820810Y110i10b10f10n10k10E110g10310i10A310J210e10a20M110610h",
  "10910410I110z210G410310g10310i10510a10a10610e10a10a10410i10a10i10g10510c10610610g10610420U1104",
  "20k10q10810m10G110b10710u10410g10C110m10U110h10n10410I310t10110j10G210510410I210d10v10I120n10i",
  "10C210i10l10Q110C110g10n10510q10G210H310410K110R110510C310910G110R310K310b10e10i10G110QH610JI6",
  "10a10G110L110S110m10610110910q10a10110C110n10q10610a10i10610o10410820610620Aa10e10310i10810410",
  "410a10q10k10o10410g10e10710a10620c10P110Y110VHl10AJl10510G110l20910g10E110d10G210110h10G210520",
  "i20a10510g10310610yD910VD910L410O410410C510c10810410s10Q110S210710710K110m10710j10u10v10-120n1",
  "0810S110o20j10y120r10u10G210p10910810M110510410610810f10C110m10710L310S310r10C210710k10a10c103",
  "10110e10110i10310610a10C110h10m10810M110J110q10e10610610A110g10S110110v10G110o10910A110510e10b",
  "10i10610710t10U110q10g10310o10510710s10510510g10i10a10c30Q310610810k10410g10G210m10510g10a10Q9",
  "10F910C110n20O110810o10H110C110f10l10Y110u10110810B410O540H410W310l10Q110410c10k10e10e10ED310L",
  "D310A110910810110k10110c10S110e10410810w210410XJn10GJn10O210A110e10S110310U110o10410m10410810k",
  "10110S110310d10A210i10810910m10110c10c20g10410a10c10i10410b10C210d20Q210z110K110Q110N110710w41",
  "0d10D110810W110X110w410L510o10a10Y410b10510g10B410K710L110310E310M210J110U410L110J110i10f10i10",
  "O110910c10C210810Y110r10P110U510720R110K210w120C110510p10J110U110p10f10Y110M310b10110v10810i10",
  "M210l10k10H110S110e10C110r10O110a10410710o10BE110OE110a10410c10F210E210410610310Gg10a10610k104",
  "10420e10g10110c10u10110310a10o10Hzi10wyi10k10110i10110410c10a10810510-310e10c20G110k10610710Y2",
  "10V110410110410e10o10b10C210m10510410G110510k20310810410420K110510310810_X610-Y610C310P310I210",
  "m10410410m10910610310e10610m10c10c10i10820c10410410b10e10G110810810410410LJC110SJC110c10g10o10",
  "h10a10d10o10a10820o10o10310510A120u10610410610C110C110EW310ZV310FRe10ORe10110U110510Y210H11051",
  "0M110c10i10i10710A210830610110O310a10410a10s10110610G210410Q110c10i10410810i10720c10710o10410u",
  "20810e10710m10910c20b10i10E420q10g20s10G210710410910d10Y120620i10510i10s10j10F210O310E110o10s1",
  "0510310610910O110f10s10710g10610610110a10410110G410610o10810u10410420k20620610i10710610c10510c",
  "10810m10E110410a10620410440820610E110110o10320610e10Y110-110v10s10a20g20g10o10o10k10B110q10i10",
  "420C110110410v10q10S510P410110110K210110l10k10d10b10410k10f10b10U210F110k10110510u10O110J110I1",
  "10f10Y110c10e10u10410-610a10810S110110Z110Q110610I210710S810X810710K210z210510-210310110g10410",
  "K120c10F110110i10S110O110310I210X310m10A210k10a10i10E110510b10510410o10i10p10O110b10K210D110e1",
  "0410s10w120610O510810810810e10620c10610710o10g10810u10r10610XU310WW310430810g10410110610a10610",
  "e10a10420410430k20BFk10yFk10o10m10E110o10g10410u10730a20a10310q10910810-110e10810BXD110QZ810EJ",
  "j10J_d10PIh10wxf1QeCP610EJ510YC510_b10Xw610FRq10EPg10TI510OJ110CDl10x_l10Lx310ZR810Sb10W110810",
  "610M310w110Y310f10A110b10S310G710x110F210-110Q210U210x210E510A610X110E710U110S310C210y210S210O",
  "810k10U110W110K210e10w110y410C210-110W210CDT210DXS210D110-110M510O810Gt10o10O410Y110110QER220D",
  "XQ210I110S510Q410g10410c10C410M110Yp10U610-Wc10NVc10I110E310Q810I110W310E310Y210yLO210zMO210W2",
  "10W420O110Cl10G110G310A510O210-710Q210a10I510h10W410x210-110M210d10Q610W710G910-k10W610w310C31",
  "0A810Eb10K110M210D310K210v10c10C410r10410SxJ210zZJ210M210e10E110q10W310I110WBJ210FyI210K510O91",
  "0D910C410G410W810IUI210VKI210YKI210XHI210U410y410W310J210w210m10I610410Ef10S610w110U210N110W61",
  "0U210G810P110O210M110G210S210b10k10w310G210J310K110G810Sc10w210A410A110410C210w510M210I610l10Q",
  "510L120yME210HFE210w310Gb10q10M610EPD210zJD210M410o10q10q10B110K310D110C310810110a10I310O210M1",
  "10E610y610Gh10U110410510m10CXB210BNB210NJi10EXi10w210M110M110Mb10QOA230LIA210OIA210_HA210Mj10M",
  "110KT_110BT_110Gb10-H_110JN-110I110W510N110M310Y710Kf10U510wHz110ZRx110C610w110Q410-210E510Y61",
  "0-910c10E110ILw110zGw110AHw120TBZ110ye10wh10K210E410y210O110C210GUX110XSX110w510Y210Cn10810y11",
  "0I610wKW110HVV110KVV120xxU110O710QUU110BRU110E110Gb10510e10u20j20C210k10b10A310c10710E110m10f1",
  "0P110y210A410_220-610v10410h10OVT110DVT110m10p10E510710L210wST110TQT110z110y110V110y610R110w41",
  "0E210Q110U110S310I110610Uk10UES110w410XYR110E110I810g10g10k10410410810Eg10s10KyQ120HQQ110KQQ11",
  "0xIQ110Ab10W810610S910510w110E210k10K410An10910EMO110HBO110Qb12BW-1a0SGP310410Zd1091UA2DZO3a0R",
  "1a0SHP310410Zd10910BNG310VR810m10Ih10KFO110EJ510YC510_b10Xw610FRq10EPg10TI510OJ110CDl10x_l10Lx",
  "310ZR810Sb10W110810610M310w110Y310f10A110b10S310G710x110F210-110Q210U210x210E510A610X110E710U1",
  "10S310C210y210S210O810k10U110W110K210e10w110y410C210-110W210CDT210DXS210D110-110M510O810Gt10o1",
  "0O410Y110110QER220DXQ210I110S510Q410g10410c10C410M110Yp10U610-Wc10NVc10I110E310Q810I110W310E31",
  "0Y210yLO210zMO210W210W420O110Cl10G110G310A510O210-710Q210a10I510h10W410x210-110M210d10Q610W710",
  "G910-k10W610w310C310A810Eb10K110M210D310K210v10c10C410r10410SxJ210zZJ210M210e10E110q10W310I110",
  "WBJ210FyI210K510O910D910C410G410W810IUI210VKI210YKI210XHI210U410y410W310J210w210m10I610410Ef10",
  "S610w110U210N110W610U210G810P110O210M110G210S210b10k10w310G210J310K110G810Sc10w210A410A110410C",
  "210w510M210I610l10Q510L120yME210HFE210w310Gb10q10M610EPD210zJD210M410o10q10q10B110K310D110C310",
  "810110a10I310O210M110E610y610Gh10U110410510m10CXB210BNB210NJi10EXi10w210M110M110Mb10QOA230LIA2",
  "10OIA210_HA210Mj10M110KT_110BT_110Gb10-H_110JN-110I110W510N110M310Y710Kf10U510wHz110ZRx110C610",
  "w110Q410-210E510Y610-910c10E110ILw110zGw110AHw120TBZ110ye10wh10K210E410y210O110C210GUX110XSX11",
  "0w510Y210Cn10810y110I610wKW110HVV110KVV120xxU110O710QUU110BRU110E110Gb10510e10u20j20C210k10b10",
  "A310c10710E110m10f10P110y210A410_220-610v10410h10OVT110DVT110m10p10E510710L210wST110TQT110z110",
  "y110V110y610R110w410E210Q110U110S310I110610Uk10UES110w410XYR110E110I810g10g10k10410410810Eg10s",
  "10KyQ120HQQ110KQQ110xIQ110Ab10W810610S910510w110E210k10K410An10910EMO110HBO110Qb1"]

/-- The JIS X 0212 index, line by line. -/
def jis0212Lines : List String := [
  "M3QN110B110zA110CC110810xC110YC110110II-310Tzz328HO110a10S11G1910v10110a10IHg10xHg10EHg1Hb_Ye1",
  "0430A211x111410w111X114w140W110T310Y310j10m10310V110y11D1I3b042D1G4b042-2RZ110U411M111o11u1031",
  "1m10D710U711I110P81gg10W210B210O310k10410a10k10310i10410F510W510H710Q810R61O1Z310110810310A410",
  "Wc10Zc10810z310310G410410810J410G410810J410110610110A510710710c11810410810310810N510110610110C",
  "g10z910b10810b10o10410610810310g10810310H710410110810310wf10B810710N710-710810310810410810310c",
  "10310P810110610110C910O610F610b10g10710b10-610810310710B610N910W910310610810317T910110810310C2",
  "10Wc10Zc10810_110310I210410810L210I210810L210110610110C310710710c10Yd10Pd10411410810P310110610",
  "110Ee11Ja10810b10o10410610810310g10810310J510410110810310yd10B810710P510A610810310810410810310",
  "c10310R610110610110E710O610F610b10g10710b10-610810310710B610P710410Q71061081031_bMIG110420e10c",
  "10q10820810610630a10m20610610k10i10410e10a20m20810c10s10i20c10E110k10k10q10k20a30c10e104104104",
  "10g40420a10620c10630410K110610-210Z210410410410410610410410c20420c10410410410e10810e1041041061",
  "0c40620620420820410410410430610420820G110a10410440420820420430410610k10810410s10410k2043061061",
  "0610410410410610820640810a10e10410420410m30620810410410630810410c20420620610610620L310M4104204",
  "10810830430410a20450g10a20i20610610620610a10410410620810820410610410410420c10410a10810810a1063",
  "0640X110y110e10410440a10820820410410430620i10g10a10810410420e10a10410Q110a20e10610k10a10810410",
  "k10m10410410420610c10e10430410610c10810610i10830610k20610q20420410k10c10i20610e10i10810o104204",
  "10410630a10g10i30e10410610a10410e10440410410g40g20c30420410610810410410810610410610410a20a1081",
  "0630410820610420i10610e30a10410a10620420c10430430610410610e30810k10110s10410c10410410e20a10e10",
  "a10a10820c10a20a10810810610c20810610420420410610610a10k10620410a10620410c20s10q10C110e10e10c20",
  "410a10410620s20610c10410u10810410420410410420c10m10410410410620810810820c10610410a20420620610c",
  "10430810e10810620E110k10410610e10c10440810620630e10K120e10620a30810c10420610620e10420610420610",
  "410S110420810410c20440610o20i10a10q10410410610610420410630820610610810e10q10i10c10610410660e10",
  "G110810610410410410430430420410610410410410a10k10440610610810410420610u20610620i10820630e40430",
  "810410810e10e10830820720o10620410410650i10b10410i20k20a10610410a10810a20410610440820410420820i",
  "30c20c20a10A110610420610450430410440410610410i10g10610420440410n10E130610o10a10k20810610c10g20",
  "c10420410810610a20410a30820820P210W220s10630c20c10a10e10c10k10620420a10k10410610620A110810630c",
  "40420420810410e10630810610g20E110f10c10c10a20410410410410810610820e10k10E120a20c30wSm10HSm1081",
  "0420810e20610420i10810610o20c10410430410410g10410410610620610420u20410810610410g10a10610c40610",
  "810610410a10420810410610a10m30820610e20420410610i10810g30820m10a20620410610610I120420810810a10",
  "i10a10410410c10k10620610q10a10610610610610430410a10a10a30410610420810a10410410e10m10410810a10a",
  "10810e20e10620e10u10w110V110410410810810g10m10i10k20c10810g10k10c20q40410610410810810420420410",
  "E120620410420a10610410820o10410e50c10u10410610i10u10m10e20810610610420410410410620G220410c2083",
  "0810610820a40k20410a10610m10420420610810g10420a10u10410e10m10b10O110620410q10a10e10a10S110f204",
  "20k10610a10810410620610410q10710g10t10K140410c10610610i20820410410a10410g40810410820e10810a108",
  "10820k10810810a10310k20e10810a10u20e10e10c10a10420610e20s10b10k10610i10q10a10d10g10a1041062041",
  "0k10450410A110m10610I110420610410410a10410k30e10c10110610620420e10410e10c10O110830c10m10620840",
  "810620410410810410a10410420820410c10610810810610a10620610g10610420610410620m10810410e10c20a10a",
  "10810d10g10630e10o10630410a50k10620c30440620610810410m10610610c20620410a10a10i10c10410m10e3061",
  "0a10610420c10810c10k10q20610810410410810610410410610a20810420610g20c10810610810410840620a20810",
  "410420810610q10610610820a10a10610410850420410610410810g20a20830410g10820610K110410o10c10c10620",
  "630420e10410a20820820420a10610410610m20610830o20c10e40420a10410710e20410E110420610o10410e10810",
  "420810410410s10810a30410c10830410410810410g10i10410810e10610A140M110410m10620610820a10k10e2081",
  "0A110g10410g20c20c20410610610610410C120610g20610610a40410820610830810610k20c208106206108204106",
  "10410610610c10820820810c10410e30s10810810610c10610430e10810a10a10410c20410620A120c10410410810c",
  "10410410420820a20a10g10410o10810440c40430410k10c20e10410g10410g30e20410410410410410610410810e1",
  "0k30a10a40410420810410q20820610610a10410810810410610830a10820410610410620610810610a10610i10420",
  "c10810410e10410410m20e10810u10610810810a10g10610610a10610610610g10830m10610c20a10410810410410e",
  "10C110410420810a30810820810820620e20640410640410420410c10310i10a20810410a10510i30420820U910B93",
  "0E110l10410k10f30410a10710u30610410e40620810i10820610c10820420a10810420a10e10810i10620410o10m1",
  "0410e10a10c10610810410C110m10e10420810g20g10i10c10410c10410a10c10610k20410410610420410K130610c",
  "30Y310R310420410620i10a10410610a10a10k10410820W510x310a10810410i10110a20430410g10810a20a10410i",
  "10420610A110650610840c10410410410s10410410410a10410410820810810i10k10610810630410610610620g106",
  "10440620820a30i10620c20410620U110410410610610e10610810a10i10810g40420610830g20820q10a10810410i",
  "10820410610410410g20410410i10610i10a20m10610i20410410410i10420410o10410810a10610610810810g1041",
  "0410610810620c20620810430620a10i10610610e10410m10610410620410410c10k10430c10c10830610i30e10610",
  "110810810830c20e10610a10830k20a20620410c30c10810610c10810620610c20a10810e10810610a10810410a106",
  "10e10810610410a10g20810610E110810820420a20630410g20820a20a10610k10810e10410620e10610c10410c106",
  "10420810820410410e10c10e30810410a10420820810m20410410610410a10420u10410410a10410420410k30410m2",
  "0420810610C110410410s10810e10440410410810410810e10410420410810410A110610610820410410e10o30Bc10",
  "Oc20410g10610610Q110e20410810410g20o10c10a10k20410430E110410g10610410810410a10810410820e10a104",
  "10420410610810c20810410c10810810U110810a10m10810610420g20620410810440610a30820a10m10g10410A110",
  "c10c10e10e10c20610410g10830410820410630Y110420m10410410e10810410420i10410420m10620a20610610a20",
  "t10E210430810420620620c10810C120a10820630610430410810a20a40c30a20c10i10420410A110810k20e10a108",
  "10620610a30c10k10i10610o10a10610410610e20840i20g20v10M120e10410e20g10610820s50610i10e10a206106",
  "10G110e10440410810g10M110i50820610u10410m10410430e10i10830620a10410a10610410410410g10C110e10a1",
  "0410a10c10g20a10410q20420e10a30610e20e10610620410Y110c10410e30k10810610610410a10e10810a10820g3",
  "0410i30610420810410410410610a10610620410c20620610a10a10820a10g10q10a20610610k10610c10410610i20",
  "410e10c10s20c20610810420410810410a20a20a10810410620810a20610a20410c10k10610410810410a40c204104",
  "20420410c10410610820410420g10410610410420810430410620820410g10410410620410c2061042061062061061",
  "0810810410620410m20410430410430610610610e10i20i104104a0g10e10620420810410820a10c10a10830610420",
  "620s20830410c40c30410630410610440620420610810410810i20610810610a10420620a10810420810a10c30610e",
  "10o10820i20610610420a10e10610840610820c10410410a10e20410s10410g60610810m10420410810610c10410A1",
  "10c10a30610410c10420g10a10630610610a10420410g10e10430620410410610620420610440a10420610810a2041",
  "0630410s10j20430810410k10810c10a20g30410610q10810e20g10c30420470410610A110810810810420410c10a1",
  "0e10c10410810820a10610610810c10810810810420410420410c10c10a30a30610820810620810630610820a10430",
  "410410610610410810430c10610610810g20e30810a10610a10610820410810i10a10c10g20610810a308104108104",
  "10820610810610k20610820610o10830k20410a10410o20620810410810k10410420420810410810o10810o10a10a1",
  "0810i10730a10810820640g10410410g30610410820420s10h10830a10810g20q10j20620810e10c10810k10410430",
  "a10410410810810620c10410410a30820810410610810620m10410410e10e10420410q20a10440410620a10e204108",
  "10410610810610e10410620410a10a10410810620410410610a20410810e10810c20810420410a10810c10610610c1",
  "0810410420820630k20420810i20610620420a10410610610g10610c10410410620820a20610k10410610i10e10410",
  "810420k10610610410610k10q20420a10610e10420i10q10m10810810430450610i10430c10e10e10m108104106206",
  "10410620810q10a10a10420a10a10610410a10e10620410620840a10610610410k10420430q10410g1042063041041",
  "0640410610420420k10410a10a20410810a10420410620o10810m10730c60610410810410820410410e10620i20g10",
  "a10k10410c10k10c20630610a10630810410830410420610i10610410k10s10830c10430610e20a10610810610810m",
  "30420c20a10810410810420420g10410610c10g10420810430420410630810a20c20g20610i10620410i50c30i1041",
  "0O210x110620820410810820620s10g20810410a20610e20820410810610i10a20410e10410410c10e10420610c106",
  "20810a10c10610a20610610810810610410620y910110430820610g10620g30810440e10810o40m10410430a20a10a",
  "20810810610e10g10620610a10c20o10810810410610810420610g10630g20410630410420410e40810410c1041041",
  "0820410420410410410810Y110810410e10810810o10e10c10s10410g20810q20u10a10410610420420g10q2041042",
  "0610620810a10g10m30810410410810610a10810a10a10410i10410610410c10a10i20c30810410g10k10u10n30a10",
  "610g10410610610810o10810410e10A110f10410a10820c10410810420610610e20830620420810420610o10820a20",
  "610820c10k10410c10i40a10620410a10c10810610810c10e10e10410430420610420810610610410410420a204206",
  "40810410410410610610410420e10k10a10a10c10410410810410610410e20c20420c20420S410R310430420k30410",
  "610810610420a30610c20610830S110g10a10420410410410e10a10420620430i20410610E130e10410c30610i10T8",
  "10K910410o10420610a10a10810a10410810810X610E810k10o10420410610410420810430410810820410610c1062",
  "0410410820810810q20410i10g10430a10410610c10620410410a20810610810i10m10610a40a10W310P320410a208",
  "10a10410410o10410840410620810820410i10e10i50610610670410e10810k30410410410820610420610810a10a1",
  "0420410610410q10430840610a10620610B210W210410a20c10410a10c10610c10620820g20430c20410610610c104",
  "10q10410410420610410810o20640810650a10610610c30610G110810a10410410410a10a30a10810430430c304104",
  "10o20610410610410810610410410z510E710420e20410810630620a10a20410410a10c20420e20430410610410g10",
  "m10a10810620k10420i10g70420810610410430a10410610810a30610810i20410e30810e20620410610630c204108",
  "10410a10410a10410410610630a10i10d30810430420i10a20410410610a10410a1041041064061061082041041041",
  "0620810a10g10g10410a10Q110430620g10410A110620410k50630g10610i10g30810410k10a10e30c20430410810c",
  "30g30610820810410410620610c10610a10630a30g10610410610410a40o10810610820c20620a10m10840a10Q150q",
  "10810410410810410610610810410a20410g10420420i10410410410410a20610c10410c20410610410410410820a1",
  "0630820810810410s30430630610610a10820410820410c10g10410a20810620810610a10610430e10430410c10410",
  "q10810830c10610c20a10c10m10420J110G210610e10a10c50410k30a10n10C110a10k10i10420610410610620c104",
  "10410a20e10420S920820e10410410410810410420620610410710k20410420810c10420a10610g20810a10420c104",
  "20g10K120m20610410810e10110810810810e10810620410610420c20410410c10i10a10810U410810610410C11061",
  "0410810a10620810i30c10a20610610610410410410a10a40410810610620410410m20410a10810H310K320410i108",
  "10630a10c10610410k40620k10410640810620k10430a10e40620e10620430g30e20c10e10410610a20420810a1041",
  "0820a10410a20a20420610g10410610g10o10c10420c10420p10G110410a20e20c30c10420410410420830c40610c2",
  "0410810g10450610a20e10Q310620630u20410c10420a10820410610420410m10620810c10610820a1061081041081",
  "0810o10610q20c10910420c20610g10820g10u10410a10820a10810810a10o10610620410410a10430410a30610m10",
  "430410e10u10r10a30420q10430620410c10F110I210l10820810k30830410a10610810430410410410410a1052081",
  "0410a20410610420420420c10820e10810810430c10610610c10e10a30c10410420810810610430610c10610a10410",
  "830440610a30410620410s20610420810c20820460c10410410410620640420410810420610410820c40410c306104",
  "20430410410410420620610630410e20620620810430a30a50430410i30620810a10410c2082042061081061081041",
  "0440450440640410610410430620430410410420810410410i10410820410c10a10810620e40410620410420i20420",
  "A130e30610420410810c20410420610430420410810610440c10420410410610610610610610610420410410610i30",
  "810B110Q110640450c10c10610420610820E110320420410820410820830c30g10u20440e10810310c104106104104",
  "10i10810610610410410a10610430420E110110Kf20a10c10810830u30410a10610420g10410810610410e10420410",
  "a40c20640810410O320810430c10a10410840420810C110410430i10q10c10e20420440a10g10a10810610410a3061",
  "0a20810e10A110g10_Rs10MSs10410630k10c10410i10g20410810C120410830a10i10410s10410e10820c10420420",
  "g10810610810a10630610410420i10o30420820610k104106206204304104204106204104204304206106308204109",
  "10c10610m10410610620410q10610u10n20c10410c10410410610610a10630420410v10S110c10610610e30620420g",
  "20420810410-310420410810620420810610610610810K110410430610i10610o10a20i10830630610610820810c50",
  "840820a30a20c10820420430W310410410e10k30610820610410810c10k20a20410410i10630810820810820830e20",
  "820a10g10410430610c20a10420410u10b10610c30410610610410e10w410410420610430610410620410410610410",
  "c10410410630820810820410410610c20410820610470620440410410810610420810c10a10410c30410420610m106",
  "20i30810610610410420410450a10410430c20840430410420810c10620g20410610830a20620420410c20c10410e2",
  "0a10410c10410620810810840610420410i10810410a10430410410820650e10830c10810430820830620410410610",
  "430810c20r10u10510c10410410610410810W610o10a10410E110h10u10c20830C120430c10410i10f10a20810610i",
  "20m10810110610830a10c20820410a20410810620820440i10i10410410610810810610610810810420k40610830a1",
  "0410410410610410620k10o10f10a10e10430620610620w530810440410e20e10410610610c10810810430630C1104",
  "10610k10k10a10610a30430610610e10620c10c40410420430810610810820810420410610420420410410450o1044",
  "0410620k20850410410a10610E140410420e1063041"]

/-- The katakana index, line by line. -/
def katakanaLines : List String := [
  "0EAo10k20n10Uf10h10B510410410410410U310410410H210S310T5104104104104204104104104104104104104104",
  "10410410610410410460610610610610650410410460410810P52"]

end HttpCall.CharsetIndex
