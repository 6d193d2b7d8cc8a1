/-!
# The Big5 index

Pointer `(lead - 0x81) * 157 + (trail - offset)`; the four pointers that decode to two
code points are handled by the decoder. Each index is written as runs of consecutive
pointers that map to consecutive code points. A run is three numbers: the pointers
skipped since the previous run, the difference of its first code point from the last one
of the previous run (even numbers for steps up, odd ones for steps down), and its
length. Numbers are written in base 32, least significant digit first, with the digits
`0`-`9`, `a`-`v` ending a number and the letters `A`-`Z`, `w`-`z`, `-` and `_`
continuing it; the text is kept as a list of its lines.
-/

namespace HttpCall.CharsetIndex

/-- The Big5 index, line by line. -/
def big5Lines : List String := [
  "OtA_B110EE410zC310Z510x210-OW810_OS810Hy310yPx810zyX810G-X810_SA910Cw510s10GQ210d10-Hx710PK610",
  "WTu10NM210OE110VHS810UPL910DAO910Jn10WK310O-X810JWX810FG110FA210EIS810xPy710-CU710B_v10Gwh10Wl",
  "10HRM710DV711UJj10PHi10YJZ810JyG910AUM110WLS710HBQ810GYA710TLB710zHi10WIU910zzB910Me10Kk10EH51",
  "0KCf10ExJ810HOS810Y310PCu10yNS710WUc10GYk10JTQ810E_M810R-O810OAA110WJi10UyQ610YwD110FSL110_Vj1",
  "0Izj10HVX710UXA110ERd10NW510zPF110GOu10ZXm10ILv10DT210PEc10E610Dz910Sy110IHf10BFa10SX310FEa10U",
  "K910Zzj10O_u10_VN110yNv10K_U710FPU710CQl10HBE110HI710wR510VR910wVw710LHP710UFh10GPA810LzX710BO",
  "C110UzT810NQW810QBO810V-Q710yQU610HPC610SPC610g10610FQC610JMd10OLY610NQw710MRP110RON110yRU910x",
  "TF910ww610wVn1vVAX150QUH710NUH710YQH710710NQH720IQH710wRf10_BX710EQH710BQH740EUH710BUH720xMo10",
  "z310Yg10Zg10E510R410C510D510I810R710yf10zf11Y-e11410L_e10O310_110we10xe10Cn10xj10T210E310F310G",
  "410x310Ge10He10C610T510-d10_d10S710B710Ud10Vd10wd10410410410_d11Gye11410Nze10On10SXg2U2yy_910H",
  "GJ211VDW612ZMb10AKg10CHn10zW512MVS710HKJ810NXa10s10A810yq10y110Q210Q410wb10e10G910G110G810e10U",
  "Q110yA110I110610W210410ED110Q320Wf10Yu10Kr10yU210KH110c10C610SO210yW110SH210-W410g10s10q10g10A",
  "110O210C310GU110K510Aa10OF310Qv10I210IY120e10ZVd10WO410Cd10NIa10GY810DKk14KWv10HNc10MKc10DK811",
  "-E610JB610CPE612PUE610QCf10T_I110YPI110G410xyI110QxI910P-m10HAJ710SSB810DXV911SNs10Iw910JS611P",
  "Am10WVI110G210UQ210DBj10KOF810DKT110T_b10MRi10DMO710w510110e10Q310Y210Y410VOd10CXd10JX810Wx810",
  "K810VAe10M110E110COe10-X310TS310C210i10XX110A_110O110O910_Ve10E-e10PFf10-Ff10ZFf10-Gf10C610LLf",
  "10a10-g10EBf10A110C110a10O110-110S210m10a10_Yf10Owf10TZf10U110QBg10DBg10-xD910zFU811wRx610Gd10",
  "MBC110VZz710MTL710TNZ710KVE710VPw510EX_610wSD110DJK910WGA910HUE810yLw610HAZ710Cw610QYy810VWb10",
  "PAe10ZQU710-JU610QD110zN110-B210NGW610C_k10QBA610VI110SV110KUe10wwK110FYu11ZYr10OQG210HWc10JPy",
  "810GLD810J-g10_AJ610VEQ110wYN910NAL910NO510CyO810wQC110XQf10HYF110LzH610RV211XDK110YMO810B_z71",
  "0Bz710SGM710Do10FVd10XHL710IHL710WGL110Y310UI910LLK810QWV710zAC110Vz-510STJ610WwU110VBC211LS_6",
  "10yZy610zwA710SHc10URK711WDc10XMA110WZN110VUI110Lr10ZBy610xLa10-P111UP310ExP710Ryc10FPH610WUb1",
  "0OKw510FCV610VXk10OXW710JxM610zRr10Wz610RDj11yxT910P_L210MMe10Uv11BAe10UPk10_CA810I710KJE910FS",
  "G910CNU810DYu10JHF710-Ny610CYe10yGV110HGR910CYr10y_Q712STj10ROD110FI610GFC210xYc10FF_110LE110Q",
  "-N110RIU710YTI610ITb10Mj10xTZ710Q-N810NVB110Cg10Fe10NRH710wZH710Ru10QA210FQ111-510DQ110-p10QX1",
  "10w710HUI710wJT710HGB710WXV610OEi10KEB110VGF110_Ef20ENf10810ZDZ710AIK710-C110Rp10IQL210DOt10EY",
  "g10Oc10zc10_Rx710xNA110Q_m10VQm11UQE910ZJB810_m10QKO710_WE110xK-610wC810B810_Mi10MVE810xDS710Z",
  "ZE110Qyd10yVW810NQX710IU-510Ve10Q610I810xRM710yAM810D-L810wML710NCx610MQI710XOb10RL110Q610AA11",
  "0Ad10-LY110DxW110Xz210Ozv10XKg10_UJ710Syw620Od20TVy610KHx610GIU110SD610PRZ110Tj10GQB110VHN810G",
  "LM710Us10QVA110K-H110FOM110_Zo10wTk10KQA110F-U810BD310xEe10GSQ810VYN710TEg10PW910YS110W_J110_T",
  "K110QDJ110D910O-_610NDl10DUN710RAg10OJg10BG410UN510-LB710OLO310NSQ910KTU510VCZ610A610ZXc10KOj1",
  "0yS110G710TMj10EVk10SO110KE310Wb10a10ED210-r10z_h10CIi10YDL710NZE710NB310yx110UF110ORR710RwW81",
  "1UIX810RUR710y710EZS710-T110H_K810OQq10wl10CPX710DRW710wn10QW310Gf10e10S610OCy710RCx710-810S51",
  "0A110K810wK_710HZz710Gq10Ka10JVp10QZG210_MV210AFZ610TGV510L-p10WGp11NGC110Gye10KHX810ZM-710ZzQ",
  "110MMF110-Ly610NNI710DY910Jz810wKD810HHO810OzT810xA-710ARU810VIz710-E110JGg10PH510CK610OM_610M",
  "IX110XHS910KPO710_GH710Izm10DO210HFh10CWw810LQD910UFl10OFy810NJQ910Y-B110AGC610JEI610wRP810ZF7",
  "10JZZ710PQj10RSe10UVG710TIG610VRe10UQJ810XDV710Tyj10TTk10wk10Yc10ZI110Qe10CJI110HXF110OVk10RPi",
  "10y310MOC710HS_610e10Si10AVD710NYA710yGH710_NF710Ui10ACJ710HWH711CQ210KQJ710RXI710BLq10QTF810x",
  "PX710Iwc10UMb10CSI710zA310DAO710Sl10Od10Sq10YI210-J110EBd10RRb10URb10BP810EP810Xz710_G510CIa10",
  "zx310WY610wAX710TXy110xyJ710CD110QXb13yEv10ZPo10JPi10OMa11SJn10KwB710XLD710yEX710XIS810GPQ810R",
  "_H810UZG810SK210BBI720PBC110SBC110PMs10IXb10HA810GX510DEu10WT310GZW710_L510X_R710Yp11-Zb10KEP7",
  "10BCY610BIn10LWf10-Dy710RzL710UDB110VFn10z_l10IZz710RMh10XwI710zP910xS210UVG710wJV110JXQ710PRt",
  "10KIZ610THU610wwj10UOb10IKA810zxy810IGW611ECb10YwT110VGE910Sx210yxE910DXI910YKQ110EAB810ZLQ910",
  "DS410CS710-US810TMV810MTC910FL910DJX810RJ610MyN810RTH810L410yG410xg10Wf10XY310DC310OUF810xKK81",
  "0wH710B210_M110CVd10k10s10TVf10Z-210KZi10K110RZi10Q110UAj10W710Q610y510VHj10o10W210s10UYj10M61",
  "0PF210XVh10yCk10410M110NBk10IHk10I610K510G310_Rk10SLe10xKe10-zk10S110o10G510zAl10KHl10Vw310HP3",
  "10yXE110PQS110-Ol10RMl10EUl10I510BWl10Awl10_Wl10I_l10Hzl10EGm10Y510PKm10EPm10U310DRm10110k10yY",
  "m10U310SR410PP410W310T110Rym10UBn10R_m10QIn10u10510C110LJn10wKn10NKn10SLn10k10-110E210W810A410",
  "S210W810K310zzn10ODo10810A210W510DJo10KLo10q10I610610C110w510UTN810JQN810O210f10KKo10NJo20W310",
  "A110x-o10W_A810_xH710w310HFp10m10EEq10xRa10zQf10EKp10VJp10-Lp10810W110A110k10YJJ610HW_610_y610",
  "OOM710-_n10RRT710KRL810JZ-710EKT710DZQ810IVp10OER810JHY810KNf10QJP710Q_t10HHN810Q110-SP710BPP7",
  "10l10E120DP410YLZ710FMR810ARs10610q10VPs10GM910-UD810LPQ710U410X210K-L710A_410XVQ710F310wC410Q",
  "BM710WM810zKY710CF410zI410M210QWQ710FXP810QLP810FzL710PJ410o10-210YIQ710ZHQ710-310-_F710XzF710",
  "RCb10WPP710zKE710310-110D710-710410N210Sp10TUs10OSU810NOY710SXY710REz710YP410E210LH610yH610-11",
  "0KIB710Ezf10JER710BNA110EOA110IAN610HBN610QYC810_UC810IQR710S310XOR710I210NWt10CUI110JEb10Sh20",
  "c10BB310UZU710zOE710TEd10UxR710xwR710yLL610R_a10XQz610UAZ710FGZ710OD_810_TB810-IS710HIS710610K",
  "110m10e10QFQ810Hyp10PIW720K210GLT610VYO710wJO810FEk10KQk10Fy_710EYc10CwE810BUE810G110TGk10MEH7",
  "10NHz610SBy710_Na10BNV710GwX610DHJ610MEL610VAX610EBQ710A310VBD810-wu10IOE610KUP110HNm10JYW710I",
  "QC710VBI610_n10QwT710FWg10NHa10Zxe10KIj10xUz610zYc10SHIa10Rxxa10AXB110VH110U410YPF610yZ410FPQ7",
  "10YLz710wz110zNZ610O610M310GXz610QRn10xJ110E910Ryq10zAy710yVC110BTm10SZm10THv10UJU810R_U710K11",
  "0E110JVH110MFz810ZHC810GQd10HMI110Ywy810FVv10NJV610YYL710FXL710xJD110CR310Gyi10Gwc10WGy610ZVB7",
  "10AV510yOT710CO110H310JWU710zc10x710BPv10G_v10C510wwL710BFN810AIN810ZXL810C_v10DEl10OwJ810DXU8",
  "10YEA110ZFA110SKh10OFf10-AA810M110THA810OMV710LIV710AYH610WUN110KOE210PEwa10yLA110_zH110UFR710",
  "VKC710GwP810XRW710Gf10OYM810TQM810SDS610LHS610S210K310xwo10WAo10LBf10NEh10MDB120UZW710NCs10WCs",
  "10LYW710y310BEB110SFB120HPi10IQi10xU810QZ_710PYW710610Y110610310K110SGA810xDA810wTX710Sp10BCY7",
  "10RQ910WGd10xW310SyX710_W_710CFA810Vwt10XHy710KCw810XxE810AZc10G110CRE710Kj10LCF710q20Ha10Cz_6",
  "10TO_610m10Xe10ADG610TMI710UDB110YE210SLY710W310KE-110zKBb10yCD910ZHY710EMY710K210VKY710t10wAG",
  "610JDG610zHe10KLe10Qx_610R_G810OKH110E310SFZ710x-X110MXs10xAH810AED910_K810JCx710My910i10q10CB",
  "210Vx110I110QDw710wa10ZGw710yV110YZH810zEM210ZJz510RID110ILA910BK210DYD110FMP710UWJ710RGR610WB",
  "I810PVc10Vr10XzQ110JwU710OVw810_JP710KQw710xH510ZFV710WQw710-910FWw710WGx710zEx710ECx710PDx710",
  "-410U610NHL110SLL110W110PRa10OIG810TKV110VHG610zWi10Ewi10C210OVB710_PB710wAy710VCH110CHH110BTq",
  "10TKE110JAz510-310MXx710Ug10XVN810Xya10-BY810610_XA910-NE110Qwy710w410T310XIy710Qe10zZ210SM310",
  "C210_n10Un10Twi10ZTm10CyR710yFQ110XFw110Exl10zEw710wDh10-Fl10W110TSK110OTK110EDM710VPG810YNq10",
  "Bye10W-I810FCw710BPB110VC510ORR810HEV110YZQ110-Jm10M310HBD110Xxo10K_c10RzN610zO810IP810NSG110D",
  "N210Q410IWC810HHN710HTa10Uzt10C410SHz710xHz710ZAu10CKx810XIz710TT110JVB110O-P710a10FTM610M110E",
  "110q10410E110s10YI-610xH-610Dzh10OBQ810HD-710j10QC-710FKd10RKX810GWG110110Q110W110PVO110OGx810",
  "HCw810-NE710YSt10Uwa10XD_610F110C110110PyG110QCR810HFL110FSA710CTB110a10c10HX210Cy210APY610NL_",
  "710KOG910ya10_Q_710O110-210V210Q410wM-610BGQ810w-M910IS510JPA810410GCA810BBA810LOH110MQH110S11",
  "0GNV710Xyw810AQF110IHH710JOY810Uxx710ZSK610v10y_A810RPB910yB_610JN-510wLT610RET610510q10YFB810",
  "HJA810G-A810Wt10S110Tc10E410Yb10BGC810a10CxB810LSB810LYq10YTq10OZB610QDA210w810JOE210QPE210TPC",
  "810AYB810Wv10HCC810a10i10810xWI110MXI110a10KLS610FKS610BWR110Vn10QT110KB910HXb10wGK910RSW710c1",
  "0DXJ110yIE110yXM710VIH710110G210TJE110J110WLE110ZY210GNx710RJy710FX910GOd10e10ZIi10ELi10PXm10P",
  "Fj10Ox-710M410HEM710CIM710_K310SQ310FLL710YDM810_NZ110VVP610-zH810QL210ZMz710U810CFx710PVx710K",
  "910U410Cww710FLC110DKJ710XSp10OIs10CN110FX410GwJ710V710THJ710CHT610XUT610WBU610WNe10DNx710yxM7",
  "10Uwt10NDu10LNQ710SzP710yj10PVQ710GJQ710wl10UHD110PCU810wZP710JW_610UMZ710NCr10Ll10yh10Af10FxH",
  "610GwY610FwY610xa10-TC710Czj10HTp10WSb10BGb10OVo10xVV810U_Y710-KR110NHl10ZSD810LMo10EO210Et10K",
  "Id10MLA710DRY610Rxj10QOx710Ew410L510I810ERl10LVL810Gt10GBI810zBI810wUy610ND210KG110NEz510wUx71",
  "0NXx710HKC110GD110DRc10wBG810TXw710Sww610Le10HDw610-310OMD810R-z710GUT610AC110DDF710CXE710Ug10",
  "zzH710IPd10OZZ610G_F210xDG210VZx510ETx510HXZ610KD110A410Vm10z910WQz710HY510PUX710Ye10y310K110J",
  "b10S110G710Ia10w510410420QRe10-RD710IK410M810ZUI710ERV610KAj10BOW710W110wBw610FQA710My_610B110",
  "110NRx510ES-710xYB210JLw610W410-yw610DZw610wIA110HPG110ERl10AAJ710XWr10YYu10PMs10FRT610YES610H",
  "wM610VZq10Wxq10J810E410xb10TAk10yS_710zC510ZLW710XEf10WIu10ULH710JRV710CZW610PHX610SPx610RKw61",
  "0AUt10OJ210xY110RYt10_410r10BUg10wIh10ys10wwX810XUZ110K710z510HO-610H710ONs10BBs10C510Zb10IT_7",
  "10FVv10Dp10IDl10_ZF810ABr10yT310DCd10EGC810DAC810MVY810HyD210FDY510HVf10OHP610x_Q610FZj10MJF11",
  "0G_w710xDx710ZBO110yHi10A810As10L110yUz610T110EXg10BCO710xX110Ix-620FAR710-ZQ710FyQ710CCQ710VC",
  "Q710OFF110wRE810ZIW110QLb10MTK110XJV810410SBz610Xn10_T-610AN-610N_z610ANl10S-X710ZZW710D-j10E-",
  "D710JD110_ED710FSg10OPT710u10UMV110JRg10FxG810yHP610g10Kzi10DIC710110Fi10MCG710Y610wyc10SHF110",
  "XNW810I_Q710VPd10BUY710SPY710yS410UJS110DHV110BUF710ISA910Jw_810Jo10Aa10EBT710XHe10FMF710w_E71",
  "0LGE710Aj10OA210xXm10UJw710-B110YNb10xNb10xZO710GzO710NAd10MWz110BXW810WxF710Ld10FNx710AL310I_",
  "J810yZq10FZq10FJv10-Fv10Lj10NTN710KBy610RNc10UAd10_y-710Ww-710Z810OU810VDO710MJD810RLD810PNd10",
  "wJd10AEJ810JIN110PYx610-GG710u10FMG710IFZ710BwP810SW_710x710FC-710SA-710Hw110xS_610TTs10S_l10W",
  "JP710HXO710P910TFm10UPn10VFp10EX_710EL610HFN710-110O710Y310wAX610BAw610OY110Ir10JHn10GKn10wd10",
  "SGK710LS110TPU610xa10QPy710zh10DEy710KZW710yx410JXw710DMj10Mm10CON710JIO710QBJ710_-A810KHo10QD",
  "J710z_S710wy910Fya10wNa10yR510NQ310-zI710Ha10JYI710-l10O310q10WPK710T610Xww710WSy710RLC110BXI6",
  "10yHF710RJ410W-910Fj10UMb10VNQ810J510yCG810IUA110xOG110xIP710Hxg10Szq10_810WUf10_Uf10PZn10WUU8",
  "10RJU810EDo10_Br10MXG810w210xwG810w_q10yh10GVX810ZKV910-Us10IGL810BSA110Z110FJH810EN110CIG810z",
  "UF810MMF810Dd10RPx610PMt10ABu10Cwx710zHZ110JYD710EUA810T310zGN710ULz610HSz620Y610YRH710LR710FS",
  "-710EJH810PLK710G610Xzq10W_F810q10z_E810yyE810QRb10NKH710UHB710FWO710-610910U410DQ210SY210Q--7",
  "10xFg10JzK810wIs10WP510BP510PX710wMK710_LC710L410LIs10QXK710HxK710GQI110HEc10WVJ610AEu10FPD110",
  "CSt10XEj10NzQ710Izf10V_f10Uj10USF710SD510VSI610RIg10YJG710Uxp10F110zIA810yEU610VWE610LMf10YZA8",
  "10PMQ710JQs10IGt10A110XFt10EwM810SQ110L110RzQ710YSG710REp10DSN610D110E310X_810US910W210H310Wn1",
  "0GRR710Jg10Y-c10Bx-710WOQ710PBO810WQU810zFR110_TQ610QHM610CYq10VAP710yEG810T110LJd10JYE710LL21",
  "0KQG610wLJ110UF110NDR710EQR710PCC710Bw910yBa10NEo10GCF710ZFz710KBI810Mxd10xYF710CYF710_RQ710OK",
  "W710LF210N-T810wEu10JTu10IMu10G410S310EHT710BPH710-XI710_zT710610Y-T710x_S710IVU710NZT710WAW71",
  "0JZL810NQc10CML710JR-610MX-610Zx-610I_-610PDJ610YRZ910ZC-210DWw610K_V710_BN810YGn10RSs10EUs10Q",
  "310O210-710P110MTG710zSG710CDX710110CHa10X110Z310Fq10XUF910M_C110xwu10L210ZN710WEJ110B210YCF81",
  "0VPw810yNp10SFY610_KO710KV510J610CYT610PNz510xM810U410GPY710DES810SCf10Fze10DIb10TJ610MVL110w7",
  "10EW-610RN-610U110LFG110IWk10GW110MWZ610LIN710yNj10xe10-UU610B_z510HTS110UHJ810HHy610H210LSt10",
  "VG610KLE110SE110OEx710R-E910UJF910JNx710M_x710y110LVD810MU210yW510s10v10110yZx710zOM810FYq10wD",
  "F810Gk10PF310FQC810yTZ710LZN610QFy710B810110RZH910CSF810W810TI510XzF710S510zWq10KEM110-Wy710RG",
  "U810TCf10MHD910HLs10DIA710J_110CCx710wJ110Nf10BXj10HQI710Rwr10QFo10ZCB110wLl10ECH710_HV610T210",
  "Os10y-w510JWY610IAX810FRA110FJZ610WL-710H-A810COB810D_B810JSG110AJD910ROA110wPA110PIZ710SWY710",
  "JUF910USJ110JQE110-Ot10OSa10E110SxQ710RQ-810yZN110XCH110WDH110Eb10SQY710ZJp10RDX710EZn10FSv10C",
  "Tv10EM_710BWG910QxG910XY_710z_G110L210M-D110VQt10AJz610_Nz610MZY710_Mq10HKO610WNX610SJb10FPK71",
  "0PUl10WNL110BTN110SCk10CDD710Uu10HGE710QUt10810Q210L410J210B910A510yFB810xIB810MFD810Nf10ZzB81",
  "0FHI110MFw710XOR610PWI110YFI110QKC810Nc10c10Hy310TYz710POc10KVU710ws10ZF210LYS710RMA110CHU810A",
  "e10H910_yU710ys10EBU710RCr10wIk10DIT710Uxz610Ia10FRW710CLA810XHG810SHL110Zh10U810OXX510LAF610y",
  "xc10Mt10RGC110Hwd10ICO110SPC710_RO710O110E610V610YQP610EHd10QXb10NKJ810QNc10QGg10110K410010TAe",
  "10CwW710T_U710Qj10Rm10YYC110zTC110wVc10JIu10wPG810ByH710KFz710RKe10zGw710wI-610IJZ110ZTU810xD3",
  "10Fc10zUb10YyA810XVG810-Ea10CI_810BEx710510yRC610Rx410VKF610yEU710ZKM110OOn10HNb10WZb10ZCV710G",
  "CS710UYk10RZU710GxR710Nb10VOb10x210-GA110JRx710FQf10RPq10Wyq10-KL810HMZ110xxM710EzF810VzP710WR",
  "410g10JSq10QWF810M510VLp10wIp10zLD110wH810Cyq10ZZK710yMK710BHM710CNM710DPx610xJf10SXf10-ZY510Z",
  "yY510wZx710Pb10_Ix710CGy710DBr10_JG810wUA910NRM810QzL710HEu10VFx610MXX610Cz210wc10Lxx610EMi10M",
  "DP610X_M610IMM610yYp10x_o10HSJ710GNH110NPO110MxJ910FRA110Z_X710-Q_610X310CAO110F-M810zxh10SHD8",
  "10VKD810-wN110L-r10QAY810zBZ110xOC610NKL110O-G710xBA710XQ810UWb10VY910Z110AFL710NCR610THn10wR_",
  "810RAK810KNR810R_F910YGk10QPI810P-G810Px110Rzn10ORB810_r10VCI710Ug10ZZo10MID710HKH610JJv10Hv10",
  "Qx810Lw310OZ410GV810UKs10_SE110GAD110WN-710XFg10xwJ810T410DPg10YXO710HVR610IGJ710-Q310xId10FTe",
  "10wQ810HQz610ya10CDV610wUg10-QD110JRC110IwJ110ZKJ110Xz110KKc10JIR710GJG710UAr10RHU710zVv10B110",
  "QFU810W210zc10YV110NMA810E_A810XyW710w_J610ZUJ610GJU710Gz110PHM110DF_610Sf10CT-610DV-610A110IJ",
  "_610OPk10zMF810EMh10wU-610JHQ710OMt10EAh10LPm10WAO710NDU710F410QGU710PGM710yMK710wDs10VNp10Bp1",
  "0ZwI710YTI710QYD110BDz810QXO810LGI810YAU710-Xs10_It10BxM710UEM710DVn10xFR610w810MLJ710HED810UT",
  "n10MUFa10LzW210T-F710THi10IU110XTf10SWg10CQV710xHp10VDN610EI310Bwn10KHT710T_310XOo10LJV610OVY6",
  "10XL110HDD710SxP710QRB210FLZ810QVQ810V-Z810-Bb10IU410MYG810Oy410PFC910-Bo10TR610G410I-D810XxD8",
  "20wxR710JxR710e10zJq10-G-810XKV710NHf10wPL710BRK710KB710XSB110EEs10VDs10Czm10Jwa10YRe10a20ZTq1",
  "0s10810c10Szq10Jyq10K410--q10W210a10W110BBr10YEr10I110XBr10wIr10LHr10wJr10PJr10yJr10EOM710HzO7",
  "10JWd10wVp10NRo10XEc10MSr10TQr10QSj10XRj10TG510wxA110xSr10a10--d10AWd10q10RNf10MSf10zV310GW310",
  "HXr10CZr10s10k10K110E-510wOI710DAO710_S810-S810zCs10c10QIs10g10ECb10Jxa10Mxa10JFH110USs10zNs10",
  "UQs10wx310JLA110WQs10o10XQs10EF610CUm10k10u10O910i10Vxs10U110CAt10C210_At10YCt10HCt10SFt10MK91",
  "0FNf10-AO610_PH610a10710w210Cr10c10JR610PQn10SIu10a10XO210KP210610G210PIB110Q-c10YOc10OB810E31",
  "0XPu10-Ru10D-610I-610810Dx510Ix510FRu10PM410wBD110620NUu10OCa10EUk10g10zVu10yWu10LWu10QXu10Lxk",
  "10Ezk10G210A710Jyu10OBv10_210I510s10O210zEv10OKv10ER910zNm10WHd10_Q910-W910BYh10Kwh10HYv10Uxv1",
  "0G210O110Q110Q210U110NBA110IDA120A710RGA110WPA110A210A210w310MV710TL710JYA110C110OJB110C510K21",
  "0G210U410MzX710xTX710u10Y510A210wp10G810y110U210HYC110OM810IWq10LzC110CQ310YUv10DGs10Yn10wRr10",
  "XHs10WLs10RHD110OJD110I110410i10a10Kc10k10i10410O610CZ410NRI110GDI110ZM310JPE110UQE110A310G110",
  "M410510C110I210g10g20i10M410C410S210PGF110o10yWK110PK510LRA110YRA110A110C110HNF110UOF110K210Ib",
  "10K710V_F110wEG110-310xEG110Wxe10XXe10YRG110VQG110wXG110A110xWA110_W510IAb10Czr10_ZG110QzG110Z",
  "KA110UMA110m10JWD110QWD110W110m10W110a10D_G110KFH110PCH110-JH110Gd10XIg10MOg10Q110Y510I110610N",
  "YH110GxH110BLS110GFS710RH_510zg10IM110xKE110GUD110U210610Y310LQ410_T210KM710C310a10o10i10T-410",
  "MA510u10e10_Ci10YHi10AVQ510GC110Se10LIN610Swl10NRt10WSV610NJW610CIu10PQO110YBH710A410C610IE810",
  "FW_610YBd10-UM610m10Ef10JVx610CzRa10_GW310ZSx610wVx610A410Q110E110O110JZV610MwV610FBx610WDx610",
  "Q210A110E810G410M110FHS610UNp10TIa10-FD610k10Sc10Sb10F610Tb10FFZ610YZZ610BxY610CFZ610p10O210PV",
  "U610wVU610q10s10zEN710QHN710I110Y510o10Nz-610SUo10MDH610E910z310JxD610M_E610Ea10Uq10810zUE710G",
  "Eh10EXT610wj10Gc10Q110Ku10M410Y310YB110JA-610EB-610A410ZXW610FU410A_x610XFx610BSp10IxV710Wl10G",
  "210AT110Ok10yd10DFT610UGT610Y210Ek10_SQ610GUQ610PUN610yWN610LVJ610OYJ610PPJ610MH110-YI611Y310-",
  "210CTn10_Nn10k10Ka10D210wa10Ej10Q510O610G310SL110-b10ZCK710OJ310O710UxJ810DRC110Y810D_B710SxL7",
  "10F-I710GE_610Yf10zIy610-LC610BJV610SF710UA110-YI710Axt10JHb10Bzg10Qa10KUr10HWK110TyL710Qu10CG",
  "x710CYE110XwD110-110DN110SP110E610-K310VHC110P_Z610-Dw610DHW610SQC710TOR710CUA810KQ310Ed10xUW7",
  "10YOX710RNG810IZG810SLv10C-910NGR910CGV710JGL610A__710PXY710YDX610Se10Uh10XAM710OLM710PEv10FRZ",
  "610AUw710Ce10ZAE110zJy510EVA710ZZ-710AL210EDd10QSQ710Ao10zMa10wV510VOw710UI_710Q210IOb10xXM710",
  "BWO110YMQ810GPg10HNg10LEH810UEH810810CG110PI710yR710N_D810VWd10CN_710xOJ710KCy710NYI810YyA910T",
  "Jn10Wd10w710LHv10z-C710Axc10Vp10YUY710ARd10XxV710YVI710PB910PDC710AKM710Q410zOD810YJH810BMO710",
  "yUK710PWF110DDH610YQ_610EJd10RJi10GSi10DVM810-_M810Mf10TZv10LLJ610YXB710XEx710xW310MKPa10DRUa1",
  "0yP310QGX710Wzg10DJM810UMz710xNZ610NMk10yS_710JKx810-VJ110ECP710Kd10ZF210wE210zHx710QOx710JYW7",
  "10yXK810zKD210KRP110DCM710KDM710HPX710Wwh10UAG710HzH710OAI710xyZ810UAX810PES110xJD610CLY710Oi1",
  "0zCH810w-L710TUY610yyT710ZMS810IzS810RWx710US910SUS710PPK810TZg10CHX710yLF110Eo10RXw810YCx810a",
  "10HAQ710SPH610CRI110VVP710MxP710LRk10NZO710MGk10CxP710PVS110BND610yc10CDQ610wUN110DMW110RPU610",
  "EXN710TAp10XHP710VO110OVi10Gze10HKq10OXg10O_w810RA210BWH810SIX710Y810DYQ810N_a10WSK710RGO710yY",
  "-710SxE110FSW110PBR610Sx810OHx710Wyb10BUx810_w610Q_R810YPc10xw710q10Cg10WF110X-t10NDD710Js10WI",
  "D810HFI810USZ810XNy810KRM810LXX810KGN810PEN710RYl10OSn10EBV710Xk10xGb10PyK110EEf10SBH110FMR810",
  "WKX810Zw510xWU810yQA110MSY710xZV810wzV710TyR710OB210FAb10GNx710HS510_WB810KSl10UVM810I610U310Z",
  "YQ110ywQ110U310M210W610Ye10S210W510_xG910yJH910EE110_w-810YOd10AXS810xUI810wEd10GWx710LyC910K_",
  "C910PAD910SAD910yl10y810XzY810CBZ810xP-710ULA810Oi10VZK810-xK810Y210JUJ910OWJ910HJD110TPz610BU",
  "e10HAe10YF_810Eg10R310g10Un10-p10Q710C210S510K610Me10YE110C410XPP810SFQ810W210zHJ910GKE110YUG8",
  "10BPY810wVY810xWK910CIB110SxK810zCM910AQ_610xN-510Z_s10S_s10MPK610NPK610UNz610TYC810MXs10RS710",
  "JK210Nyd10LAd10QEL910zI910FWA910MUL110KXE610-CU110QU510w210VV810zY910HMU810UGy810xZs10yXc10CS1",
  "10XLF810O-H810Oz110RZF810ywx610zFA610BKp10WRR710MB710_LU710xg10MSw610K810VUZ610FQ710wBD810_CE8",
  "10OP_710VUK810EzP910VRI910Kw410710WSk10-YP710FWC810WyR710_yw610HVs10yyA710BK110CXk10Fww610OEe1",
  "0LE810ZNb10UAj10N_i10Wm10YYd10FRv10MRm10-q10DNm10wQl10MO110VV110FNl10QXh10zRh10ZC110OIz610zMM7",
  "10ODg10H110AQ810C_N810JLG910OQv10HUf10L310Fi10Wd10-Mx610K510LyW610QHZ710DNB110Y-e10_xe10N_X510",
  "BVg10XXj10OJz610PzW610ANq10RNB110SDs10NNd10AYf10TXm10F410K410JJ710UzK710BNH610CEJ610RRO710VLe1",
  "0QMM710__z610MK110Cd10l10GVg10Oyb10wFN710RNZ710KQ510yU310x710Ck10BR310MG110KKG610JzF710QBn10EA",
  "K710LXV710WXj10QYS710PBJ810SHI710WDL110XYt10Azt10FK710M-110LUQ710SGA610Bz_510IPV610wwU110Z_L21",
  "0w410FJO610YDV610HVK710IHE810ODo10xAY110BPH710GWN110xTr10CIE710ZKS710wO_710YZK110_YG210Du10PwW",
  "610CUK810LxS111WFI110BMH110H-P610WO610EMf10LTH110L110ZIc10MZi10Kw810VUc10VLe10AT110Cwc10PNe10G",
  "XH810xXW710INZ710BUE710D-m10-V110WOB810XRI111NSH710GBV710BPY610QTV810FwI910IOH110CRQ610EDR110J",
  "NJ910yUB810K_C110AE510DYN810UVy610YPq10zP510FJo10D_J710O_c10EzA710Vc10DAC810yzK110XTu10PFa10T_",
  "310-W710KK_610xEH610_Ud10MyZ610XDL610ILD810NIT810P-b10wxa10-QC110NBv10AOc10A-W810zwC810HwI110Q",
  "Rk10x_u10yRk10CyH710QR911JZW710YE-610DQz610YxY710GKK110DzF910UHP810BQz810wJr10ETo10LSg10GOf10V",
  "VB110yY_610RRz610AI410w_X810VZo10-C710NLV710WHD610U_P110_Dh10BXu11FXz610CRG710BYA710KXs10yMD61",
  "0_U_510JD710ZSa10G-f10BDv10ENf10VTc10wc10Uyr10_Sf10WVf10XKf10ALf10XOf10I410-Yf10RBg10wQf10yA21",
  "0XP110GSW610H-U610N-E110AF310Ly510WJH110LKH110yG110TFa10WMa10MJ210BR310CW410WF210Mxs10G-210zE7",
  "10FPt10WUB110Yo10Lo10xIC110IA710Y_310DVa10ADE110Qf10NMI110MAF110BMm10TNc10AKi10OCR610FZ-510NWD",
  "111MOv10QS210JS211l10MU-710PRV810IwE810RFB810RLa10wXt10HBe10JP910OXQ610ZKI610CS410CxP710HSf11Y",
  "B610FEJ710OMi10FXG110UK_610LRE610II211P_l10MX610FNc10wI310VV210Mz510NS710GWe10CyK610RLZ610GW21",
  "0y310_D110QOt10HYL110yQk10RRk11-Vq10UCj10SC710xA210RW110M810MA110y-110H210TQm10UZ411TR710yBe10",
  "_J411PVk10UCI910FzL810YN811zX810W710wy710VB810zXl10WPQ810JVw710w410Dw910IwH710RDI710Lm10x-510w",
  "Xe10_Fa10GFK810HTV710PFp10QQd10FB910-OW810zFV810w-_910HTV910TCd10-810Yxb10VCc10-u10U_b10Az-610",
  "XIC710JHj10MOk10R-B111IYJ710UyK111NYR710wJN611xBC710UWa10AHi10wG110Lz410CC410TZ911U110QO210Vyc",
  "10K_h10-I210TzS110YNu10VKj10UEo10SPe10-AE710___710JVa10EJJ110RRu11xB510AB510Oj10Z610K910DHk10M",
  "Yj10PD710WEQ710BJI710yJ210_Cp10KYj10WGX810P-z710-F_711_V-810wGG710_DS610Hzi10MQB110GQy510LNH71",
  "1SZr11IM210QFR710_DR710ZK110SD310510LR110PE410F110EKa10TX310xQd10MVc10ICw710VCw710VW510GB610zz",
  "410KG910GEP710RHZ710yXy710PST710K210LA310Iy210wL110IG110Tm10PBa10FD110E-710JKH110wXp10I_h11Z_1",
  "10BUa10zK310QAd10AFy610TSF710XQr10WZp10DN810Qf10VMi10CJq10VO811UPf10YxF810ZNM810NW810VWa10EK31",
  "0PAb10-KA810ABh10-Xb10JSg10Z-t10LE310KAD210NSl10CN110X-J810YOC810EGk10PZJ110RYq10QVT110PTc10Xw",
  "E810wxa10wCE810X_B710Ta10KyB710VGZ810YQH310VQH320YQH310NOP310IPP310110a10x110Bd10TAP310110WCP3",
  "30VZ-310wZ-340Kg10RUP310yBP310ZBP310-BP310zLM310AMM310W110Sb20Hd20Ki10410Li20HCH320ICH320TCH32",
  "0UCH320DDH320EDH320LDH320MDH320HDH320IDH320HDH320IDH320K160LEP320620AA820R-710510CNP310610810z",
  "MP310HZf10YVn10PD510810X110110Y110Q310110x310110J210110w110110OO610xZ810LFg10IT_310Ha10DH-310Y",
  "Xz320620520G130Ua10410LD_310A210L410SWg10EQO310410110NLO320d10D410I310u10CAO350Qf10JTO320W710J",
  "810110Aa10GR810110Lw810610e10110YA210410Zw110810Pg10410510410820410110w810310YOO310w210NSO310G",
  "FO310Y910Ce10FzH310yyH320Xd10W110ZBP310c10AWO330LJF310R330A310Z210F120K310HRp10SKI110410610110",
  "810410II210EQf10K-310ZUL180e10110110110110110110Z410f10f10f10f10Q710H910410G910R810810810810K5",
  "20410110z110s10o10h10C820410110F730wZM3a0RxO3a0QL790QRh10620YzV2q0eq0Ryz3h0470gh0470YTmF10_En1",
  "0v20510810KTgA10410JX11tIVm10S510P510410A410U110S210c10y210KI110M210c10K710A220U910U710Y210W11",
  "0Y610zx210410510410C210q10Sw110XZ110610O110110A310G110-J110Gc10Of10S410M810U110YT110Ys10U210E1",
  "10Y410wt20410Ka10O110G110M110S310Ym10g10o30m10I710Y810q10g10UT110XDa10110510A210610i10E110y-61",
  "0Bx610i10810510410s10-110110610620c10520d10-H110310M210c20310W210-510A130Gf10620O110G210u10110",
  "310S110M210O410110610-R210w310410110610OC110wb10G110M110K310Ko10O810I810K120ya10KE110y210K1106",
  "10CO110Q510A110q10K110Y210Wg10Q110A210Q_110E410O110E510i10e10I310K210OD210-r10o10a10o10E110410",
  "C510-d10DXi10510110110810G210E110410110O910p10740o20l10a10OG110110K420E210w420310E110M910110M6",
  "20C110c10xD210WG210110Q110110u10110w410I310l10u10d10410910110I110710510j10910810g10110110l10g1",
  "0s10AO110110YD110Q110610G410410-t10y210Sb10Yq10110110Y120A710i10K810O110110ya10KE110S420310110",
  "IV110C410Qk10310320410MD210U610I410110Q210i10110310CH310Kd10a10Gl10k10E310e10i20e40Q510Ef10C31",
  "0C110-210we10e10C110Ok10I810Mb10O510ZKm20G320M110A310m10410110U510k10A110t10m10f10620310Z11081",
  "0a10l10610k10810k10yD110310110410A210i10Y110G210O610b20710g10w810K610S110110A520Q910c10510310c",
  "10t10k10d10q10710910910m10f10o10yM110310110M510510f10a10110610b10Av20w120Y410n10m10b10710i1011",
  "0Mt20-220510810C710Y110G610Km10Q210A710310W910o10yb10510QD110320610G510f10510yN110Gb10110820Kg",
  "20M110I310h10510810Y-110G410O110W910O410b10410c20v10a10o10b10r20EC210-u10310CC210WH210Un10K810",
  "yD110I510G310I410410i10c10C210Y410k10420Ol10e10i10i10A110u10810-410810o10w-110Kt10o10O110Yh10E",
  "K610z-D110M710Ka10410f10A110e10T210O210b10J210A220H110510310m10C110P110k10w110d10810B310-110P1",
  "10G210810J110E110Ev10110410Q210C420y610110a20310G810320410O710A510410Qa10A110t10A210P110Q210N2",
  "10-110510v10K110b10N210s10C210B110410510j10e20L110Y110810t10b10n10q10yL110c10n10e10-510e10B110",
  "q10b10e10v10E110110H110Ir10-410-510l10M110j10a10j10510h10O110B110h10W110Qr10110320C310110810w9",
  "10I120310110E520610f10-l10C210G810f10610w610q10W110K410310K110410-510n10m10j10I210b10q10r10QC1",
  "10110G710G110110L110j10G110X110w110r10410910b10-110F210S210T210O210310310l10GL110410510Sb10Gg1",
  "0W610B140m10b10g10J110510U110p10810yA210U610G710Y110W310P110e20710M110B310A110M110_110Y110H210",
  "y210710J110c10B110o10j10E110v10O110e10810L110I_110c20910Uu10110110I610310Id10Mp10110o20Uk10w61",
  "0If10yt10110110Ob10KI110UF110Ck10510k10910610110Q110wr10G210d10410yP310O410y210OD110u10u10Q410",
  "Oc10o10G410Qf10-110Cd10K110E110810110110F-o10ALp10C110g10710510Ma10w710c10MG210710610d10410LAE",
  "110A310w110Q110A110610q20Gc10y210v10T110o10F110-210v10910510F110a10G110z110E110W110P110C110410",
  "N110Ut10310610I110s10110410K410A410y310510110610j10310g10m10w710510O910410110310K110C130w51031",
  "0610Y910410C210x110w110J110910710q10s10n10j10I110z110a10M110s10P310c10G210r10C110YG110S810n10p",
  "10110f10a10310Q110Aq10w210320710A110U610510S110V110l10G210l10k10510310g10h10V110810-110p10Up10",
  "a10110I310610310810510410-710y210520C710L110O110t10410c10410Km10410710110c10j10O610E210510a10d",
  "20A610A320410O520310510C610610w110f10k10A110a10W110c10z110I110J110o10c10410410v10Wv10110U21011",
  "0410-310U410610f10910610h10S110i10_210Q220h10510_110K110110I110i10D110c10P110K210R210O210320B1",
  "10T110E210AH110S610K110y310U110110d10b10710o10r10u10c10l10510Mg10310E610y110k10H210W210R210810",
  "A110M110b10P220u10k10l10E110V110K210d10N110D110g10Cx110G420Q110I910g10Qc10a10m10D410W110S110D3",
  "10k20310M210N310U210310V110o10l10g10F110S210D110Y210D310710M210b10B110x110G410F110b10k10Kx110d",
  "10810f10u10Gp20m10A110-110410O510s10m10310d10Sd10110h10o10b10Qp10A610720Ue10y310A310410Cf10Q11",
  "0Ck10420Q810110Eb10110C810IA110MF110Q310110U710Kb10J110510u10v10k10310m10j10a10Mj10S110u10Ma10",
  "L110710I110A110x110U110f10910d10k10i10J110q10s10d10OZ110G210HFq10WEr10GG310Gg10c10510Ie10610d1",
  "0a10Ch10k10Mw110i10Y910I210110710i10310O710-210U610o10zLE110s20Gj10X210b10A110C210t10310s10T11",
  "0p10E210e10J110q10R210E210n10310Q110n10A110N210Aq10W310110u10ya10l10e10610110110710A810410b103",
  "10Y410U410I210-110C410Cd10I110P110M210910B110D110q10I110910910F110O110610810R110710c10k10D1103",
  "10Q110AE110G810i10K110610110Y210_110V110Es10710310110410Y810710O210X110a10W110x110a10v10o10W11",
  "0b10ym10U310610310310610Y510w420310310y810d10Ki10M210g10b10y510G210c10I510s10K210Q310G210510a2",
  "0710a10510S810m10610a10N110U110K210G210f10b10X110510S210110110b10wt10W910U310p10p10t10I110F110",
  "u10k10L110c10f10510E110j10w110t10wD110c10M610E110K210G410g10p10e10g10v10i10i10p10Gd10Qg10X210y",
  "110Z110710Y110L310d10M410n10c10V210q10Z110M210m10Z210O110u10K110F410S210i10910l10QZ110S110610-",
  "210w110a10Q410Ua10E410O210f10O110X110R110K210F110d10I210420f10V110L210I410D110C110t10a10e10N21",
  "0w110AY110u10d10d10610310m10j10j10Yo10E410510a10K710h20Md10G110t10h10W110p10p10Om10G110E210510",
  "410510A610d20520Kd10s30A410310510410Y310f10110C110410p10310m10Kd10M210E110f20Sj10610110110E720",
  "O120d10Ib10410y710310Ao10K810610910i10310510410ED110M510C310K410o10510810K210Aa10u10l10N120g10",
  "K110b10p10A110c10d10Oh10y210Kc10Y110410D210f10m10y110z110w110e10N310a10U110A110J210f10510q10l1",
  "0o10A110O110UU110S210410110Gt10y110Mh10G510I310b20WJ110410Id10110C410Sh10110Ii10j10710g10910g1",
  "0310d10810Ee10810p10410Q810110G810Kx110yc10930Kh10e10E610E210c10s10Oa10G310810Ob10610BUF110W51",
  "0Sl20M110H310O310110Z210C310F110v10M310Z110910f10110N110c10I110I110N310A310L110s10110J210910-3",
  "10510X210w210D210Gn10Q220510W210110b10a10W810c10f10e10410wc10K510A210310E410Sg10Q210t10M310V31",
  "0N110q10I110n10U110V210810n10Q210V110710710C410_110j10E110Iv20yb10E110h10f10M410Mg10Q420410Ob1",
  "0e10810610710f10N210I310610c10710R110510Em10we10Pa10610610310b10e10810110Y410w410810910w910A11",
  "0310B110310g10c10m10p10Uf10-310310A810410b10U810C610110110Sc10k10410J110a10Q110710c10K110W1109",
  "10p10e10f10d10C110Cr10Ya10K110h10-410v10t10M210F110810i10b10t10M110F110F120510K210110Yv20A510Q",
  "210810w710e10c10n10u10b10d10710Ob10Y120410Ug10O110A110310q10T110i10E110V210U810X910K310a10H110",
  "R410Y510v10710e10R110W110D310a10S210SU110110y210Y610820310310Yc10U710W210p10110B210E110110x110",
  "U310N210w110V110H110U110l10G210310B110o10_110-210MT110s10o10l10B110e10Um10A410G810510810910110",
  "-810O610Y110V110r10k10n10Mn10i10110310110K610e10410J120k10110510i10j10Gd10K210U110620W510j20g1",
  "0Cc10O410h10C110V110O110610D110g10p10110G110Gi10910A110110h10g10110b10610U810110810f10e10610B1",
  "10Ya10810C510w210m10Qn10Q910j10n10110M110410r10710a10a10410t10o10410-B110K210K310C310710K410E1",
  "10510810310M210410Eb10C110D110K110P110e10E110r10910K110l10q10r10p10yf10110I110A110U120510810-8",
  "10A710O210410j10D110Q110d10H110110W110Z110e10510z110S210t10h10W110CR110M310A210N110C110a10Z110",
  "O110d10It10e10k20910710-p10f10310310i10l10q10710610d10410OD110E310110Q220Kd10Kj10M210410910Ee1",
  "0A510a10t10i10b10b10u10b10g10p10w910Y410710a10A710910110Y810a10b10a10510Uw110-d20310b10410e10n",
  "10c10w510OC110Uc10Yf10A310w410q10k10xLG110Yv10610B210J110710i10s10B110Y110C110P210e10A21011061",
  "0P210_310A610310-e10S310W510U710a10G610e10110510W310110k10M220310K810ST910Lx810I210710D210U110",
  "610x110e10R110K210d10c10L210K310X210j10y210_210O310_210s10M110Cr10610310Md10M210a10710L210810M",
  "110g10G310x310410Oi10E410Id10m10g10w110810T210710M210f10H110810Mi10O510310110310510e10G4101101",
  "10S510720Ua10110g10q10910o10B110Q110J110a10m10610v10Wc10M510310510810A820310110i10O710410A210K",
  "110510410Y210410a10b10i10110710Ge10I210T110O110g10G210N110E310R210g10j10b10O210_110Y110510t10S",
  "110N210E210F110Gl20w210Ql10e10J310I210o10610x210v10C310E110R310Q310_110b10Q110_210w310H210810C",
  "110g10m10T110510t10910D110110E110Gu10d10910g10310P_710A_710i10510110Q410110C110G210720410-8105",
  "10k10810310f10W910DCa10IEa10Mm10y210p10t10E210L310h10W310j10v10S110Z210C410N110N210110u10i10m1",
  "0h10410z110AL110Q810C320-310Gm10y210O310T110N210-210J110Q110O110110m10x310810X110E210F210A310W",
  "110B410-310310_210q10Q410J610K210C110F110E110e10510b10D210310T110E410Z210O210GR110A120p10r10yk",
  "10A410810W910110910510c10y610y710a10d10610f10u10Gd10M120K210c10G420710s10-110K420_110K110610Cc",
  "10M410310i10Y510e10310b10410410Cj10P210m10Oh10610a10y810O910610W810g10p10C110b10p10a10A110Im10",
  "a10310Cb10510y210F410m10610810v10610C110J110G110v10110YA110C610710E310410810U410y210710Se10R11",
  "0q10g10310e10n10yd10G310410110610Kl10A110b10_110U210n10O210D110R110f10i10j10O110R210820k10C210",
  "yK110VOj10wVj10d10j10s10t10C110a10T110310U110Uo10W410L110G210R110810h10310Qg10710W910p10c10410",
  "o10710r10710e10OC110C110-410610110510410510Ac10110Q510710Ci10810Uj10n10q10510o10710310p10a10i1",
  "0410B110G110n10a10d10Id10a10A110U510O710O210t10510810c10710Aw110Ce10m10310a10f10810420l10I510U",
  "210110RAe10110GSe20OV110Wo10Ap10k10M210M110RBH110J110f10I110f10B110M110410410MGb10zQa10C810420",
  "n10K710110310-710W410Mt10a10O210V210s10G110910L110U110s10L110p10810f10A310910t10B610I710P110C2",
  "10t10a10F310m10E210D110In10Ei10910k10v10o20v10710610Sd20M610Oh10G210V110G110i10o10Yc10310C610b",
  "10e10510U320M210Wh10810X110G110Mb10Q410f10610610W310Y410h20410Q710C310Y320310Si10A110z210810U2",
  "10Y310e10R210W110J210m10d10I710N710w110P110G110h10E110wg10U210Ul10N110G410t10S210_110510e10a10",
  "C110F110C110l10O120P710y710j10t10O710P710-110Km10g10720y210110-110-b10410810410d10E210N110810d",
  "10O820A210310wt10J210m10f10110y210L210M110d10d10E110N210A210t10P110410A410a10710J410C110I910F7",
  "10GE110710610W510310M210G310-320510GA110i10Y110F310C110K310Z110T210a10310f10A410510H310E310Q11",
  "0B410d10S410V310S110F110r10O110L210C210w810D410_610K310K110z110y210h10j10UL120o10k10t10K110Q31",
  "0D510Aj10Q310710Mb10B110u10l10Ch10v10i10B110610A120310910H110m10410wf20K410110Q710d10g10j10110",
  "c10410W920U110510C210Q210G710y910A710u10610yp10910610b10910Q910110110-410310M610q10v10k1041041",
  "0d10310810410yk10c10Sb10r10Q110F110T210G410810B110a10710s10610z-j10AFl20M310O410G310Ad10110h10",
  "c10510J110q10f10s10e10C210y910k10ws10U110l10K110Z210V110M410T410y210410610G610Z410T110Y110_310",
  "C310l10P210y610T210j10P210W210F310m10YH110I810b10I110R110e10i10H110s10Sn10U620B110Ed10G110Ka10",
  "K210l10i10D210a10G110e10l10j10D110c10710A210WA110C210w210q10h10k10810b10a10n10610110i10d10Ed10",
  "910710w410u10D110u10h10910u10J110Kj10510810Aa10E910e10710e10b10810Yc10p10I110l10K610410U610K42",
  "0s10T110K110B110610h10k10GY110910710c10410110710Yf10810510r10g20e10V110E110w310810110420Q21061",
  "0Ud10S320410-d10610a10b10i10910Cc10110MR210k10810zEI110WC110g10520E110d10D110m10810n10Q110Qr10",
  "f10c10E610e10310320Y410AL110i10J110G110P110s10J110k10E120m10J110e10X120-110X110Sk20Wk10p10e101",
  "10610b10O110z110C210F210Q110v10d10Yh10Ul10g10610r10110110h10u10v10OL110c10wd10w210A510110U410O",
  "410G510410Ym10l10S310R210X210Q210D210g10e10M410310f10i10t10j10p10T110d10C310Ue20Cv10W210_110o1",
  "0610A110B110Z110q10f10d10S210_120B110Mm10G310C110Oe10r10320s10D110I110l10M710CJ110N210F110w110",
  "N110n10C210J410E510P310y110610p10l10M210q10R210c10f10Yu10W210y410110I110U210KK110q10I210Z110o1",
  "0D310q10U210310_110p10I210310t10M210V310c10Q210A110T210510q10UJ110m10A110910V110y110l10A110b10",
  "T110S110d10P110E210D110Ie10Q110Ke10s10b10110Cj10J110910k10110Z110310U110420Uh10410Q810v10C110t",
  "10110i10a10l10110We20Y710A110910f10a10M110t10410v10i10610b10Y810Aa10E210R120n10510p10K110410H1",
  "10Wf10a10410WK510zG510-510310c10n10m10110C820Od10S410_510s10d10Uk10410410yd10T110Q110v10s10H31",
  "0GB110920g10O310110710Eb10410y210310we10110g10F110i10a10f10s20H110-910E410WD110l10T310n10I410t",
  "10a10D210G210B110z110d10Y210410c10810N210QB110310610U910U110l10110d10310510e20610810-k10M810l1",
  "0a10610710a10810N110m10510Uc10O410Q810e20p10610e10O110l10R110w310z210I110P110l10o10310q10410Z3",
  "10U210Uv10Q210110C410520710D110C110110610Yh10310i10e10810e10v10b10410Yc10C510c10l10o10K910G110",
  "S910110i10B110E110P110S110910h10g10110110810F110610Cd10a10K510310110A610y610A210z110a10610310w",
  "110v10S110F110Z110K110810f10n10c10W110yT110Ag10720Q310310320w210810310510A610y110410U920410h10",
  "g10b10Af10f10i20Kb10310610wi10QA110Sp10Y810a10q10RDH110e10h10t10O110F110910b10410A210F210W110S",
  "710C910A910110-a10Y710CF110410W110710T110O110r10610820N110-110i10N110g10T110Ei10310-l10i10a10A",
  "110h10B110o10f10A810Q210510410M410110Qn10a10610D110110410m10E910S610i10b10820410b10410910y210K",
  "510Ei10610Id10g10r10410510-710610I310Y310U210S410yo10f10o10Y210J120710910310w110Kb10wF110z2107",
  "10A510X210R110W110R210M110F310S310s10Of10-210M310110Yc10c10l10-P110o10F110Y210F110K210f10_210Y",
  "110810v10i10Y110510_110-110L210w110_110Mq10610Oe10AQ110z110L110K110z110K310K110x110o10Z110p10A",
  "210F210v10O110W210e10b10t10r10M110810S510x510x310K110t10L210W210wJ110a10X110q10b10s10Ya10I5108",
  "10ya10o10Ih10110e10c10510O910w810M910T110310310k10yc10410Ca10d10410x110Am10D210g10o10j10b10We2",
  "0310Ca10610S710110I410410Eb10n10j10L110E210c10h10910S210B310510Kj10820wf10l10H110C220x110U210L",
  "110310110i10P110w110j10610l10K210l10V110Is10A720310-710710w210Sc10A310u10d10410l10610K610G110q",
  "10q10k10w210yH110j10e10310V210a10I110L110-210F110g10G110F410Y210K110d10KH110F210-110R110610u10",
  "X110w310x110r10Us10u10r10a10110a10J110E310V210Or10T110E110a10L110I110r10C110c10910610v10d10i10",
  "q10Gs10G210110O410320S910y210710O610Qh10310610310A910wb10f10810e10j10a10810910310yb10110c10O51",
  "0610110510Ig10g10a10G110310V110Q110i10o10X210K110AR110e20b10410110Kf10610110C310c10y210Y710i10",
  "C710C220O910410E510410e10510Qb10ye20M310W520Er10410510Ss10-710u10LEH110710910b10810i10c20710Od",
  "10Wa30810510M610Ec10YH110q10310d10q10l10l10U210910i10w110x310d20AF110-110110K110N110E110910510",
  "Oc10Yp10r10A110L110O110710Me10310510410S720Qj10h10yc10510410C810f10a10310c10510Q610S210M410310",
  "Cs10t10e10B110f10w210b10n10910G110S210N110W110Z110y110D110k10v10U110A810WD110c10k10K210I110T21",
  "0g10A210l10D110410I110N110Y110110310B110E110F110i10C110Ec10420Mj10510i10510EX110710N310S110w11",
  "0910X110I210r10h10N110u10610P110I210-j10310M510C220SX110w310g10F310K110D110E310R110D110w110j10",
  "A210H110j10n10G310z310F810U910t10110AE110q10a10h10ya10K410Gb10i10Eh10E210f10910410-f10Ca10i10j",
  "10a10410920Q710A210U210Ua10d10a10a10b10Ak10b10l10A110n10O110R110I110-m10510810510b10810I710110",
  "-f10810G110v10E120b10B210Y210yf10Mh10I110910o10F210I110t10m10910h10810m10V410W310S110e10Yn1041",
  "0Q310U310w310Kn30610b10310-X110M210F210X210y320T110310E110310p10P210S310L210e10YH110r10410L110",
  "c10E110v10t10310l10e10Qg10410Gb10h10m20410l10Er10M110l10510z210M310w210L410O110d10510t10M210h1",
  "0N110610E210Cn10410y110I710310g10310g20l20d10s10h10Y810E310810Q810V110q10a10F110U110j10410510Y",
  "910G610310810k10510810r10410e10Ik10a10b10a10k10Sb10510b10k10M510410410f10Ek10j10710G310x310Q31",
  "0F210r10i10M110l10S210x310WP110810Gl10420410O510w210310810E910k10t10O910O510i10110c10Kc10p10u1",
  "0710j10810510e10yd10O320Q310y110110G310f10Op10610b10Mq10K110A110LCD110UKD110_DH110c10710710a10",
  "W610U210G310Ib10410A610MW110E110s10v10910I110r10310510o10310510j10I110WE110510i10310Sa10-q10O1",
  "10I410Q710y110YT110QG110B210Q110z110G410N110g10o10310Q610KJ110710k10v20y110L110610910m10r10G11",
  "0410L110Mb10El10610v10m10610t10KY110910410-110E110F110z110m10y110110L110710D110U210N110Ch10y11",
  "0y810wx110B110v10E210z110w110T110o10q10d10510v10b10I110UA110m10e10410j10q10X110K110m10610R120I",
  "q10Ij10e10l10e10110I410U220Oi10810410wa10310Wb10320c10Gk10r10E110910-b10Oa20f10c10110-610-h10Q",
  "310P410W110h10c10g10510-e20Ij10e10h10G110g10910110H110e10Sm10S310y320510U310Wo10j10110G510q10A",
  "520CP110u10B110A220L210c10I210510n10KC110Y110110810J110Id10Sc10g10p10c10j10S810710Ak10I110t10c",
  "10u10H210m10e10A110620l10j10c10610c10-m10410M210C610Al10F110610s10h10710Mg10n10i10910K710310-c",
  "10110810b10k10310Ub10y510yo10M110x310W310710p10L210-210N210M110j10M110910n10S110J110EK110Ye204",
  "10W210S310610a10h10c10710Y420k10E310Q910g10610710j10o10J110Ye10Q110j10510c10d10Gd10l10u10Oc108",
  "10-310r10W310S610Io10s10610410L110i10wr10710Sb10u10DHH110l10410C110Gs10SZ110r10A110l10410g10ME",
  "110310310510EG110b10b10M510wb10C310Il10310610910Gb10Ce10C710YA110d10a10-110V110O610410UJ110710",
  "s10g10A110j10c10a10t10m10K920Ml10510Uw110I110v10y110b10-310P310J210S110d10A110Yb10E510Y210y210",
  "Az110S110D120910i10e10810z610Y610l10g10H110S110410Ov10f10u10f10110g10110g10H110K510C110Ui10410",
  "Oj10e10j10410yp10710k10y910Sc10h10c10710910c10E410Qg10610b10910E110Ma10610wa10Q610Qk10c10t10d1",
  "0K110X210Ag10710410810510b10810Cl10A110g10t10910C110P110E110n10I110710p10a10u10F110k10v10Kh10-",
  "a10i10K720310110810Gl10510h10g10310110310o10l10U210C210Q610ST110L210b10y110l10610W110H110H110C",
  "210x110wd10Sl10C110x110-110n10V110A110110s10610An10910s10n10a10-610Em10i10410410B110M110510R11",
  "0o10Cj10310I310O810610110710610wa10Ca10410510410Uf10b10810610b10Ak10310e10520310Sb10U610910310",
  "Cr10K310T510w410V210W110T110F310M610D110B110K110L110b10MH130710310We10e10y110M410410E810G310G7",
  "10A710-710Yc10310-q10510110610yo10810Yk10I410u10320310G610q10RWF110GL110S110WC110110AG110KC210",
  "MI110A510CM110310o10g10n20710Ac10Ki10U410wY110d10O110f10510k10H120Ab10S110O310UF210410p10g10n1",
  "0O110310Yu20410b10-n10310Ej10Q110M510Ck10410b10Wm10410720El10Aa10Gb20310I620Mm10710610n10a1031",
  "0Mc10wm20i10710e10t10e10-e10Cb10410Y710110Ol10410W310Ky110L210I210610d10R110k10110F110SE110510",
  "c10D110Mq10Y210E410Ij10C110p10110Ki10Kb10Il10k10610310910j10W610S810810Uj10710a10Gi20I210Is10j",
  "10o10o10C110910310810P110410510wD110410b10a10wg10b10510410610M410-710610e10Y410I510410510410a1",
  "0O610I820310t10O710S610Gb10E410610S410110110w710110I310J310f10Cp10o10610Ao10K310O110R_G110EX21",
  "0SD120610GR110WZB110HKA110MQ110a10110110WQ110u10Ct10510QA210f10510d10QU210810i10r10610f10610yu",
  "10e10W410U410Md10410Gk10q10S110Ia10110Sd10410Mm10El10Q910Ub10310Kt20d10a10b10i10WC110410o10v20",
  "Wh10Dh10Gk10610110AC110CB210n10q10J110u20E110IA110k10g10H110a10Em10110h10g10Gu10W110710t10C110",
  "n20h10G110-q10410En10j10K110B110j10s10b10Ae10b10-510wd20Mi10510GD110v10s10X110a10I120d10o10J11",
  "0m10o10p10C110Iv10Qd10-210O410510U310W710-110G610b10610C610S810810wc10610If10Wd10110B110a10yq1",
  "0P210C110f10410Mi10a10710C210XxF110Ax110u10110310g10QC110YF110610U310S710Gt10-C210410yR110710a",
  "10ws10C410Ky110EV210r10410yt10Wm10Il10Gp10610CM110810410110Yp10-210Ml10h10k10Ea20yL910BT810110",
  "c10Uc10Ib10Ut10Y810KZ110310Q110N110o10a10710610UA120-k10M510y310Qn10710b10i10v10o10Iq10310Yn10",
  "f10810510ET110O110wE110J110b10Iu10-k10Ip10y810110O510G810a10e10310yt10b10YG110Y310G310O410A310",
  "810310TCH120SY210110410EF110QV110Cm10-C210410-R110110S710Il10EB210i10j10Qb10UJ210-s10Y810-C110",
  "310Kp10Um10wH210-D110510Aj10WF310M110F110SA110110110310Wk10410C510Or10610c10Mp10On10610310Id10",
  "A510WA110IH110a10410a10310b10d10Or10Ml20d10wc10Q610310Ef10ye10310510310C910K810510Yd10f10Uo10a",
  "10s10j10Ke10E510U210G410k20VCH110110wY210410110ML210KF110310Yn10CL110KS110M-210O510AP210e10QS1",
  "10Im10Ma10Ie10310OU110wK110110-B210110Em10GZ310510w810Io10Mp20Un10410yc10Ou10YP110q20WO120K810",
  "310Ua10Ue10Ag10f10K810Q410-i10P110q10510Qp10810wl10Q310310U210PME110UQ310UC210GS110g10110Es10I",
  "C210Uy410A_210Up10110410yC110610310yU110MF210e10Ev10SV110MQ210110Iz110510810IQ110Og10we10yf207",
  "10Y720510Go10610110-o10Ub10K510FCE110QB110GE610ET510GB320Km10SX310Q310yK410610S210CT110110810z",
  "R410IK510KK210UK110QN110c10710E810Ua10-u10Gc10M310Og10Up20E820U810A710910zHA110GC610wU210SA610",
  "410wy510Ko10CO210AS110CL110310CA210we10Qn10w410Sw110PGn10MX310Ay910wN410EV110SJ110610Ryd10AQ61",
  "0yQ110WR110QL120310W_320-H110FK910WC410WZ410D_l10EEk10Oc10UO110610Xwg10DBM1a0ma0ZQ1a0wLm10i10M",
  "410W110EO110I110K110yk10-310C310w410IV210MH110WF110PKn10YUn10K710Y510C110Gz210Ya10Ex710Ie10-Tc",
  "10CQ310xAL210yB110ODn20B620V910UNf10PNf30Kf10-DH310410__L310IQ4T20sW20LOm60H110K1A10Y110V1q0QZ",
  "e10z220MB810wPH710DHZ610ADZ610PIX610BX610-RN110PCH110SCH110MFL71I1JCx510410Zd10910BNG310VR810m",
  "10UX720XB110810430410420g10e20g10410610410410g10c10410g10810420410e20e10a13_Fm10F310m10d10C210",
  "Di10V510G510-j10_110QzF110U110SZ110Ki10Q610VX210a10W310M410UE410KTR210xZO210KQ110HW810QX110RX1",
  "10A210K610-210e10110AN110Im10A710w410OW110Gu10S210IO110-u10E-310Ez210S110Q410WC310xAi10m10Ya10",
  "n10q10f10710510ET110Ah10A310Mz120Iv10Q110EF110610y810S210S310110Cp10Y710410Ok10AE110O410Ky410C",
  "210q10710710GH310410Ud10yC310EN310IZa10_QD110k10I110N310-110F210u10h10C110K110V110610w110t10t1",
  "0v10y110-J110E610j10e10M910Y710510y210w310w710UN110310-410710k10QA110I410710i10j10610d10g10Ot1",
  "0-b10A110O510320610Cm10M910u10y710Q110U510C610110910wI110410c10510a10710h10e10b10m10UY110110Al",
  "10910110610110a10510h10KO210y210o10k10p10910k10h20KC210wu10M520Sd10Yp10Kl10M_110YN210OS1108108",
  "10510410yy110CT110WR310320610d10yY210410710610ZMD110V110O210R110k10C110L210S210J110q10x110O110",
  "V210c10o10E210yC110U210G610410610Y820W510U510u10Y120Ca10e10p10U210t10X210610i10p10K210E110r10R",
  "110710G210OK110d10310Y510810e10510410e10Ir10U310M610r10g10h10h10I110D110110Q110b10wu10810M9104",
  "10G610410d10610310i10f10710q10410Wk10U210810w710310610710a10Q710Q110W510310Y510110110w110910c1",
  "0a10D110610110O110l10g10810a10n10ME110S410i10420a10p10L110k10110j10C110e10B110c10l10410GM110Sb",
  "10810110110610Al10410E110710h10710K110v10q10t10KI210S420y510B110810S110e10810x110310b10C310Z21",
  "0U110s10e10L310q10r10M110G110M-110c10Su10Y510310c10610910d10m10Ad10410720310Qq10110W520Ye10YL1",
  "10OP310C610810h10410k10Iv10110j10i10610410h10d20I_410CV110j10Ae10410810d10i10d10AZ210f10e10310",
  "T_D110Km10X110i10f10610e10B110310K110910p10V210W410Z210A310B210g10h10Q110o10f10k10n10v10G110T2",
  "10610AD110y110410O710520G110J110W810y420C310M510410Gf10f10410A110t10c10Z110u10810R110e10g10r10",
  "O210x110r10110Q310J310810510GJ110410M710610910310c10110c10k10l10c10f20D110c10K110-o10S310A710a",
  "10K110110X110U110l10l10c10e10G110J210o10610g10H110G110Wp10610y210410-a10610O610j10710K110b10d1",
  "0810p10810k10l10g10510j10g10C110b10j10Cn10510a10-g10b30A310y210710110C610e10Q410d10p10S110N210",
  "S210T210q10Y110R110810s10j10J110610y110V110310910510G110Qv10S210A710e10w110F110H110o10I110X110",
  "a10710o10D110e10g10KI110W610G110y410p10g10s10j10p10g10g10410f10f10I110110Me10I110W710R110E2108",
  "10X110a10w110D110310v10S110110D110K210r10g10L110b10810h20W110CZ110W510310A610-310M710S51011061",
  "0J110F210y110N210U310_210S110r10f10i10610O210a10_110m10R210T210G110Z110y510x110A710F610b10N110",
  "S410T210U110P110Gy110810F110s10p10310q10a10H110Q110N110Ou10Y610l10q10t10G110j10410c10r10a10Gd1",
  "0510o10d10710310o10t10Ak10m10O520310y410o10Oh10I410310110a10Gg10810510410110510Wk10510M810Gb10",
  "610A810Un10Q810QT110U510-110l10K110510f10Gn10A810A210J110B110310610U110r10e10s10x110Y110b10n10",
  "d10g10S110x110-110p10H110yy110110320Q-210YX110d10g10b10i10110410Wd10410910810510SY210810110310",
  "i10LHD110f10s10B210O110410j10G110g10510x110f10Q210H110u10X110c10d10G310QF110a10O710410W710-310",
  "W110110610110Ei10R110o10f10U210n10UEn10LFn10h10Q210_110u20L210_210Y410T110Y110X410Y610x210KQ11",
  "0N120a10P110m10c10310d10810h10k10o10l10910-l10S110M410y810510A110E110t10H110w110610110b10D110s",
  "10a10X110s10k10410J110y110j10d10Wr10Ia10I810g10n10m10n10A110610710B110310610o10520910d10310g10",
  "C110S110Cg10Q230510810Y810n10310d10g10410E610O210Q210A310Cb10410W110y110H110R110s10n10410E110t",
  "10n10410w110V310A210I110s10g10It20Y810y310310L110S110l10P110s10M110510H110310k10G120T110W110T1",
  "10l10CF110410O610K110O710J110C110610R110k10710C110f10u10Z110O110a10l10Ce20Cb10C310T210r10E210B",
  "210w310_110P110h10s10M210d10910T210Q110T110I410110f10l10B210h10K110S110i10x310U410L310O210B210",
  "x110Q310l10-110B320d10O210z110wV110U510410E310A210410g10A420Og10o10d10r10w110610Z210f10_210S51",
  "0z210K110C210_110h10B110w110K210B410O110-110H310o10C310R310S110o10H210U110R110e10Ow110P110-110",
  "p10110t10G120n10Qp10g20E210810610910Y510U110810610n10m10710510Ea10O410j10c10510n10510110110O31",
  "0X210g10h10a10610r10G110Ci10410A410S120-510610-c10W410I410930a10F110810110we20y110m20p10m10110",
  "110910b10A110Oj10410110b10110C910f10410e10f10Eb10310G510-220Sn10320c30E810a10d10OF110S310710C3",
  "10S410e20a10G210Ca10B110S110t10h10b10s10l10y110j10610D110m10n10c10g10u10R110Ej10E210G710K410K2",
  "10910s10z110Q110V210K610z410J110y110f10l10C110610O110B110910b10b10b10710U110d10b10UY110510g10h",
  "10ys10q10S110610110Um10C310610WW110CH110310q10r10Ch10H310410M110v10d10i10810510Yg10110CI210910",
  "410410h10810_CD110R110410o10u10s10J110L210110-310810l10L320A210a10810e10s10b10410F210Yk10U3101",
  "10O310b20610c10G910d10f10o20j10q10W610C410A910Qo10H410K310910V210o10t10M310V110a10810Z110M210n",
  "10H110S110t10720P110y210l10g10Mv20Uc10M610Z510510P110o10h10110710310i10g10i10N110g10wk10Y310-c",
  "10510O120R110b10g10p10I110K110Sj10W310c10110O510G510310Q910G110B110610c10i10d10Aj10110A810c107",
  "10410O810510O310Mf10510q10L210C610T110f10E110B110Y110T110E110c10710v10K110r10Wo10w210Ya10y110M",
  "410T210Q120t10q10Ca10Va10E110110r10F110Q110p10I210710a10X210U110H110O210h10R110-110N110g10EA11",
  "0710A810520310Q810K110P110k10Cc20Yg10910-210N120g10A110810R310W110J110S110j10410410-110j10v10N",
  "110l10410E110410c10-110F110J110910YQ110610310810610S310KRa10TPa10y510310810910110a10y310Kl10N1",
  "20E110R610I510C310T310k10m10410E210710E610_610e10P210i10d10O310N210o10Z110G210M110R610S310G210",
  "p10410810x610w610f10410f10W110YU110h10310o10D110yG710NF710l10910o10410n10d10f30G110n10G110Cm10",
  "M310110110U810b10b10k10f10510g10c10Ed10c10o10t10T110W210710c10p10j10i10d10i10510520A110Mf20K12",
  "0Y210U310810C510C110b10i10710110h10810Ad10-310I510310l10610110C110D110810820g10a10Yf10i10j10G1",
  "10b10d10c10510j10g10k10h10e10Gi10e10n10q10h10110110U920n10s10110510r10410110Sa10610710c2031051",
  "0C510Q310n10u10r10k10d10410810910i10En10q10d10410710a10f10S910110n10510k10310510o10p10510510AF",
  "110a10510410510310W310710C310110310M510Q210910Cc10f10e10710o10b10a10Cg10y210j10yg10b10O110V210",
  "Q310X210C310N110410V110j10c10A210o10F310u10D210I310C110N310s10710O110f10b10y110310e10e10J310s1",
  "0-110H210C210WQ110110A510c10D110h10810q10N110A110B110a10u10J110A210n10g10c10D110610j10u10p1081",
  "0-q20S210g20710s10t10s10v10I110910j10g10Mp10KD110A110I210S210110Gd10410w310410110Wh10410Wi10h1",
  "0q10510710i10f10b10Ae10k10d20i10710c10p10610710a10g10Y610320M810q10f10EI210610w510OC110Yv10A51",
  "0_KG110Cv10b10h10510410p10f10E110K110T210a10n10U110B110Q110Z410A310U110k10410f20x110b10y210a10",
  "X110b10-n10W910410110410Q610510U510-610St20T310C110610X110j10O210C110X210110910E210p10R310M210",
  "G310N110J110u10V110s10a10m10-r10510If10S110D310I110T110Q110o10F110A110m10v10G110P110H210Q310R1",
  "10l10u10p10e10l10w210D110I110R210U110m10V110f10e10w110h10Ql10Ig10f10510E110h10L210510Q310Z110u",
  "10c10e10R110C110p10H110U110l10r10O110F110M410_410u10H110G110I210d10D210k10a10H110U110Mh10710G5",
  "10110S910Kc10F110E110510c10H110Y110V110S110110L110C210x110C110710u10Ah10j10w710610a10d20G81041",
  "0G610910i10We10c10j10Q310r10k10S120910K110l10810J110N110U210H210G110l10810k10p10EH110G310K210f",
  "10910A410z110u10v10b10I110Z110z110Q110i10D210C410T310O210z210C410D310Q210R610I610N210q10710A11",
  "0710Z110Gu10U710Q910710b10310610c10Mb10Cm10s10i10o10z220A410510Wa10Ne10I310i10510H310110y310F2",
  "10P110W110L110B110e10Q310T210t10q10w110910l10K110N110W110X210610M110910310p10SL110510820S51031",
  "0320310y910Mp10J110i10110Cc10Pc10w310d10V210-310D210Y210P310Q110110h10P110O210h20310S110T210p1",
  "0A310610L310W110F110q10b10e10E210z110U210L210j10M110P210-T110G110L110A210F210Q110X110I110B110w",
  "110H110610e10q10F110f10310K110h10o10An10520610y910b10v10k10e10r10310h10A110u10U610y610410510u1",
  "0510710k10d10b10410610q10110N110I110Yl10110W610810510720a10110-b10b10U410M610j10310820410110k1",
  "0P110M110b10Gh10k10h10810510410L210-110m10Ih10610420d10g10j10U510-310310320Q910a10710Ka10E110F",
  "110t10m10r10410u10V110E110p10I110b10410410610c10x110i10Cn10810310q10E910g10910310810m10R110510",
  "Q110c10h20m10t10F110WD110E310e20310-220410620j10g10b10M510110510Y210710a10Ad10q10n10410E110r10",
  "q10r10610n10E110j10a10-e10O210910e10b10310E410Yh10G110a10V110F110d10C310_210W110r10I110810H210",
  "-110K110X210c10i10C110310u10z110p10O210k10N210u10S110B310O210z110O210P310I210-L110510S610f10m1",
  "0110810l10j10Q110t10b10a10I110P110e20e10b20Ip10O310o10G110b10g10v10h10A110310d10u10r10410710q1",
  "0g10_110e10910If10I510610710W510h10a10r10WB110410C220A210Q210Qd10310310G410c10h10c10410Oh10c10",
  "110110910i20Gk10R110c10m10v10K110yc10910c10810320z110O120510w610410410d10410O910g10510410a10H1",
  "10K110t20o10t10c10YY110o10410If10t10310c10310A510Wa10U910Ce10Eb10XPE110b10110k10F110Q110_110i1",
  "0410u10J310I310j10v10a10Qd10K710yj10110G910610Uu10O110510g10L310yc10Fa10t10l10e10M210H310E210B",
  "110E110N210u10U110N210M110o10F110yn10wh10s10x110a10i10710a10F310G510F210h10110Q110o10h10f10m10",
  "110l10110u10Mi10yk10V110m10J210Q210710L210y210T210S210e10N110S110N710w410c10q10H110g10y110x210",
  "410u10A110p10810k10wk10Z110310i10510d10810y310I210Og10o10Q210T210k10n10j10Y110510e10D210e10Q11",
  "0J110n10Q210N110h10A110B110810j10810k10a10-f10510Oh10y410110c10yh10v10G110M110H110j10A510D210Q",
  "110o10B110v10y110V110810410Z310E410K110a10p10B110a10e10-j10Uk10w110110y110O110610e10X210Ud10Ta",
  "10R210M110M110B210w110610Y610D810B210-110110P110I110910B110a10a10110510Q210R110410Sl10K310610b",
  "10f10o10510O210C120A110E210410Ua10v10u10a10t10g10t10g10-810WA110R310C310P210y410x310310e10y110",
  "R310C210n10d10E110w110510Z110D110M210V310Y310Q610Xb10w510D210R210y410X110P210w210110H110G21011",
  "0q10R410b10K120g10s10F210K310D310K110Y210A110x510EH110410810510Q510610410710Q210G310420w310Ys1",
  "0U420P210U210-310X420g10w110N310I110410Y110M110N510O110Q110l10C110L110P310W210A310k10n10a10_21",
  "0h10Q310C110b10D310N110s10G210E110x310C510H110G110D210I210N210I110B320I210MM110310C110H310G310",
  "610r10410510A110F110i10E110z110Aj10u10y220510110c10O810d10K210r10u10410n10m10910d10510E110R210",
  "Ei10310810910J110810e10o10810p10110b10o10h10E110Sc10I310A410510W710p10e10a10h10410a10p10yb1051",
  "0Q410Y620510i10f10a10810520E910s10I710820h10C110810d10810410d10110j10810Eh10110110310E910g10d1",
  "0i10f10K910w410310M610t10i10810810410r10Q110F110wl10710k10d10Ob10O110n10v10610C110610V110y110B",
  "110u10R110410K110P110s10B110Av20M220Y310320M310U710320ya10T210-610e10g10510f10j10A110F110Ya10g",
  "10i30m10Q320410M310Mc10I910U210U210F610Q210U210V210510Q110b10U110T410410G210f10H210E410H210g10",
  "p10O210x110L110610g10-110X210A410c10B310G310l10H410C310x110K210F310k10S110S210_410S210410T210O",
  "310H210m10S310_310G210UN110k10810F110A110h10A110p10s10t10A110510D110C110N110On10s10110K610w110",
  "x110110g10310f10c10910c10l10-410P310Yc10610110M410520G710110H110A210R110O120H120q10j10i10d1041",
  "0610AB110E210110U310810r10i10710-c10710i10-410910b10b10u10c10p10c10810B110u10D110Ui10g10610110",
  "F110g10h10A110r20s10l10c10910g10l10Ik10e10910Od10M210P210910510o10t10410c10110e10310310y510610",
  "910610310Ca10i10W110D210O110o10N110510n10E110F110310i10310G210J210U110g10l10310D110C110KW110E1",
  "10110810Of10h10k20b10510E410c10910y210110Y710810310S910Ea10E410W_110GB110LHI120E310OA110410e10",
  "P110M110c10L110I110b10D110C110d10h10U110310F110410-h10Ga10310620OU110Q110t10810910110G110Z110I",
  "110v10K210T210G110J410E410c10q10n10r10U210J210o10N110El10-j10K110710J110310710M210T110d10u1071",
  "0o10j10x110M210s10W810Ws10510e10B110310d10810910u10i10p10m10t10i10k10L110410O110H110R210Mk1042",
  "0M410I110yj10r10R110W110q10b10r10k10110910y810-510110710610310U710e10b10a10710S710-610310Uk10E",
  "520z110U110t10710710Q110N110A210L210O110Ae10QUn10JUn10410110Cq10Y210b10K210410h10O110810u10A11",
  "0H210j10610C210310J120N110U110k10f10S110n10b10J210A110M210V110410X110H210I310G110p10F110Cm10G2",
  "10C410Gb10c10i10910910110u10910X110Qa10ME110d10N210M110I110u10D310c10K210B310i10K110410C210D32",
  "0H110O310R310k10Q210J710Q810H410K310R210-210V210E310x110N110G310P210B110A110H110K210p10410z110",
  "A210F210Y410z310UA110110310110c10d10U510EHH210DBH220510320GK110W310r10R310C310B210n20o10C110g1",
  "0q10o10J110810F210W210D110d10w110N210S210Z110o10a10S110710z310d10710110O110510y110n10w110b10F3",
  "10O110l10IK110q10310C110510z110Y110a10A110c10r10h10z110M110J110g10K210B110t10610t10i10q10Kf10y",
  "310110a10110310ya10c10d10110c10k10110Wf10c20e10110c10N110u20310n10810e10e10w810y110110110A210Y",
  "510310H_510YG610A210n10n10e10310510110Q110J110910h10g10g10Y910Y110Q210Q710k20r10810810u10310F1",
  "10a10I110G710Oa10G110b10910l10C110v20W110x110j10A210R110M110V110Cg10c10910710Q910e20d10a10310q",
  "10t10g10l10G910110710w410W710310i10e10l10i10p10s10310110t10O110310F110-k10410910Sd10310b10q10r",
  "10c10l10I110F110g10d10A110g10v10d10K110Wt10310720810U310110410I320K410Gk10710O110V110q10r10e10",
  "A110BFd10wDd10Q110t10g10V210w110Yb10Y210910710410610YK110Db10O110A210610M110310P210H110B110M41",
  "0z110N310w110A310F210110W110110L110Ua10Ra10N210610b10M410N310K310L410G110X110_410E710X110G110J",
  "110E310C110N310K110310c10w110M510N310F510o10B110510K310M110T310R110K310n10U110x110WL110d10p10K",
  "110D110H210-110Q510J510M110910f10l10O110f10Ct10l10420A110510110r10810Kb10M110I410c101105101104",
  "10b10k10A910A110d10x110D210Q310m10410t10s10310p10c10Es10u10110W110110410A210320O410Y920Q210910",
  "420310c20710410y510v10o10a10510x110S110b10110a10m10d10i10Eh10d10410110a10420b10i10Ok10F110a10a",
  "10n10Gd10510410410a10310h10610A620Sd10k10D210k10Y210F310E310d10K210J510Y110710O210110Z110C110e",
  "10g10R310W210u10z310G210u10F110E210H210a10d10k10H210wW110510410510Of20310c10O310Y210610910510y",
  "710820b10w910320y910U410610Mb10610310a10Qf10310Ab10-o10610b10Sp10w710NBH110D110610C110m10P110u",
  "10p10e10B110S110810110n10510Qf10Qa20Q610410K410Y710WH110D110h10c10L110G110q10V110E110B110f10G2",
  "10R110910b10AJ110p10I110g10D110910310l10O110B110q10k10510P110o10c10p10S110910-610w610Cn10E110h",
  "10v10K110v10G110310g10B110310910C110r10110710u10h10Q910S610610A810-h10310510i10n10e10j10G11011",
  "0110j10310C110H110c10Sd20b10K810d10c10h10s10d10810d10410A710110Y210O410Mn10710S110w110G110410B",
  "220-110b10I110n10_110M210z110k10T210-210h10l10Gd10310810AA110E210s10410O110410720k10f10t10A410",
  "P510I310H210310B110g10q10v10-210_310w210110D110o10E110Yf10w210Cg10110110M610110y110-I110a10G11",
  "0R210y210P310U110710A110V210g10l10S110T110Y110K110t10A110a10d10R110A310V110C110_210K310X110_11",
  "0O110h10510W310D410d10E310p10v10C210Io10610310G530G220U310AN110O210710E110E210Z210-310X310G310",
  "J210K410J320q10t10G210R210J210w110Y210w310T710l10-310G110v10o10d10T410Y110e10K310x310f10d10G41",
  "0Z110_110y310V110D110C110L110S110MG110i10d10h10a10510q10H110m10910M110wa10u10I410310310Ab10k10",
  "810910Mh10C110310810510l10e10E910420U710G110M810r10810i10710d10k10Ia10Sc10910i10510H110E110B11",
  "0u10a10-i10f10k10d10910T210w210p10e10910o10j10410If10r20m10110110110810t10k10310W910-110T11011",
  "0d10310E810620E410U910I110D110e10110c10h10110u10p10h10G110HRk10KRk10m10D210Sj10810510310we10A1",
  "10m10z110e10O110110a10P210C310j10410a20Z110k10F210M210Z110e10g10910f10Q210Uq10-620410d10M410S3",
  "10110wi10510510810c10110110U810EI110q10510310W110I110n10L110410510s10910q10o10F210v10O110-110F",
  "310k10I110R110r10G310a10B310s10c10d10y210x310y110S110z210O310510310i10V210z110At10Ed10v10a10G4",
  "10V210D110v10610f10410Q210N110K110510g10L210E110f10610u10T210Q210h10810q10X120C110H110j10M110z",
  "110Mu10v10k20g10810v10s10b10a10l10710110Eb10810310110W410410510Gc10D110r10e10510e10Oq10W220Y61",
  "0b10g10-b10G710d10510s10v10q10d10810110110d10410810Yg20510110MB110d10810410510310510k10510b10-",
  "510f10e10b10Ej10110x210K210B210M210n10M110Z110S110n10C110D310y110P110I210W410_510n10G110q10J21",
  "0m10S110N110710c10q10s10R210i10E210n10D110x510CH210610y510S510K210510810a10510410d10i10510310-",
  "410110S410O920I510310e10M910110O210j10410110g10910k10Ue10E310810O520C220310Ep20610Er10PwG11081",
  "0w210P310s20B110g10q20t10q10Co20K610310SV110b10k10N110o10i10110510E110410T110p10k10B110E110b10",
  "r10A110Ae10Cp10r10I110B110610o10510d10710y510AA110l10i10b10110q10l10k10h10g10c10310k10Ql10Ej10",
  "310g10p10A110t10410m10710a10d10810Wc10n10610710OZf10PRf10610610Q610S610St10f10j10Q310110r10R11",
  "0E110f10Y110310r10p10Q110h10H110N210w410U710CE110410M210k10V110E110a10p10710110410O110710N310S",
  "410R110yd10810110410O320Eg10910d10i10a10p10a10CV110c10C110D310G110w110H210p10Y310B210F110j10S3",
  "10410z110S210J310710M210Z110v10S510P310D210K110E110B110B110y110910I110q10L110R110A310z110F110E",
  "210Wj10I510310110810W510110110610-T110V110Q510i10-310H310910710610T210F110M310V210Y310_110j10M",
  "110Z210w110_110310e10w310110L310Z510C610k10E110L110S210Z310Q310D210M110M110D310I110p10C110OD11",
  "0510H110K110v10b10u10o10P110g10d10c10510i10r10m10o10Ke10410yb10b10o30510310c10d10110i10Ki10420",
  "710910710g10610n10510-810110O710Oa10d10910810110e10h10s10p10C830510Ef10410b10110Kk10D110I11051",
  "0a10510c10n10920a10Cd10e10110710c10d10JC710GM710S710410110Ig10I110p10D110E210z110k10C110J110Ah",
  "10610810110Yi10X110u10510v10k10E210h10H110A110910110310t10Op10M310810510A410310110410b10410Y71",
  "0610Yj10710110h10q10h10310-710S310810110310310610GN110O110X210t10S210V110910810E110J110w110l10",
  "B210A310B310s10810P110M310P310G210x110n10g10i10M110P210110w210P110U210l10C110X210910C210P210W3",
  "10l10z320g10110k10-110g10A110J210s10M110Gj10If10q20G110U610x610V110710e10h10u10d10h10q10u10510",
  "T110310C110310E110510s10n10D110i10L110Y210b10F110a10410Cf10Wa10e10g10h10o30F110A110910510910S9",
  "10410110U410610710Ge10h10r10W110310620T110Y110R110410a10G110J110h10610Y110Km10u10E410M510b10b1",
  "0u10r10610k10Sb10710a10b10K810610410110k10R110c10910910g10q20F110310c10910i10910610Eh10f10n104",
  "10c10610p20Yl10510110f10810Ic10710320g10n10g10O520810h20410710Al10p20710S110F210S110E210D110d1",
  "0C110D110c10B110G210Z210M210x110310c10Q110R110g10n10O110310i10L110410x110Y210V110D110QM110A310",
  "110610410If10310C310E310610b10Q510A310810b10Q410110-410110i10610110f10910o10W810M510r10O110610",
  "420310Oc10t10410820b10910q10410p10o10l10Oe10S310110g10110110K510510I210q10510l10A110110910f107",
  "10g10Ap10310610410f10A110d10d10410q10510110-n10A510Y320H_G110h10810610h10wc10Ml10wa10-I110v10s",
  "10a10p10510k10a10H110S110Ka10110wq10l10o10j10910g10b10k10CF110410410c10p10110510c10E110r10c103",
  "10Cd10wr10a10f10310s10910310710310k10910410a10Gb20310i10U710310110410510M610C710Cu10m10D110-21",
  "0B110E110910m10D110a10d10X210WU110110b10110b10n10H310U310Q110Q110T110U510Y410510M210Mi10j10410",
  "k20810D110310110E110O510CR110E310Z110y110J310M310T210-110A110i10V110j10R210E310z110810410S210b",
  "10H110110a10W110b10h10H210E210f10110f20f10-g10110410C510620w110110w310110610Ow110y110P210I210l",
  "10E110b10T610M610d10z110Y210D210Y510z510i10o10r10310K210v10d10L110O210x110E210x110610310KB1105",
  "10510d10y110L120k10i10j10510g10D110W110X110k10I120Ec20Wc10520a10d10c10110Kh10W110c10n10310610o",
  "10U610K710-a10310810o10j10i10d10510310W810W210Ib10610810910110e20r10810310Mk10o10710a10n10a10f",
  "10c20m10r20Ic10Aa10810110-610410510710c10Oi10a10810j10f10A110l10s10C110J210M110f10b10u10F110e1",
  "0Gf10410610d20Ck10u10j10l10G120p10910s10d10a10g10N110810e10h10e10C110110-h10Q320310O310y310W31",
  "0110G410Kk10l10g10m10710j10a10710g10310a10v10W410G630-P110B110M210x110c10s10h10P110c10y110F210",
  "C210x110q10j10Y110J210w110M110F210A210e10_110E110d10Y210L210h10h10C110e10Of10410110Oj10n10g107",
  "10110j10d10K110410z110s10Y110x110m20o10R110A110g10310B110Kp10g10k10520d10k10t10e10b10o10510p10",
  "Ed10-e10410A110420P110O310_210910C110P210M110610e10O110v10o10Mp20310K610d10610110610S710410O31",
  "0410Y810m10b10g10a10t10c20810B110u10y710S710f10e10510e10310510Ek10610410m10I710S310420w5105207",
  "10410Qp10h10L110O110R110i10W610D410810B210g10B110B110K410R110z110110D410E510F210W210D110T11031",
  "0w310D310E210J210U210A110710l10L110f10110p10m10h10910W110MK110C110t10920710i10j10g10Ye10W210O3",
  "10e10310S810310510Y510g10w310b10610Ef10910g10410K710A510310d10110o10p10e10110310Ed10c10l10e10W",
  "310810110310Y310w410a10410l10410510e10C110110310L110W110P110m10wp10r10i10310j10K110n10910k10D1",
  "10i10c10Sm10320O210110Q220I210Q110W210NBH110110510410710i10Ws10-Z110d20d10310110910810510410KF",
  "110310910610WF110f10q10t10i10910110i10110w410M720Ks10Kb10310Il10510QA110r10e10W210d10a10110810",
  "j10CR110b10b10g10d10810S910110M310I210Qf10Wx110i10J110I210X110M110710c10510N110o10910e10D110K2",
  "10710F110D110O210n10J110e10c10Sc10E510Y510Gy110F210W410_110u10d10C110b10110f10I110J110a10c10Sv",
  "10A110h10k10r10o10r10Cp10920Qi10W110d10V110U110610810n10k10C630510K710-b10a20310w510K410Yc10j1",
  "0e10a10110310510h10Q410Gg10k10a10d20j10G110n10a10c10Oa10510Ib10110910410710c10I610420Ik10k10Z1",
  "10s10110710G110T110O110P110u10e10b10310h10a10i10L120-110b10yd10Kk10u10c10t10KBd10_Ad10r10-110h",
  "10e10x110G210X110m10910s10j10Wg10U310110110O710310U310-o10i10g10310910410l10w210E710110410OS11",
  "0510u10Q110D110m10J110Q110P210S210j10810N210a10q10Q110N210310B210O310g10v10e10o10810X110C210_1",
  "10c10510n10510E210f10u10Sc10Ml10H110610Q110J110710q10710e10r10W110b10110k10J110f10K110c10L1104",
  "10i10d10a10C210X210Go10310i10410610C110V110m10W610410110I420Wi10b10310910n10c10O110F110610610r",
  "10c10910310M110h10e10Kj10C210410110310M210110K610M710-d10110c10510710910Yf10510Kk10d10Ub10E610",
  "g10d10310c10410710610CA110x110Y210V410r10t10K310H210810U110Z210e20u10q10E210F410y110u10D210310",
  "510510E210c10810T110510a10810S110D310m10yG110d10i10b10410r10Of10410710I710110d10a10710C810e109",
  "10410110Q310110w110A510610c10110710310Ee10c20310i10110510310810110Q610m10310C610f10b1061041011",
  "0310a10420310e10Wb10A410110810910Y410E510s10j10510m10910810110x110Y110310u10Io10s10M210B310f20",
  "410e10f10K110520910d10i10510PUe10QTe10wl10110810G210Q110E110C210810K210110110E310Y410zGH110720",
  "UW210810910610610710ON110Ys10wi20Ml10wa20UW110e10s20610d10c10910J110G110MR110a10d10910i10410d1",
  "0Q910O410-f20510w-110n10810I210V110n10720A110F110d10Cb10W610E410Y_110a20n10810u10b10t20910W210",
  "T210910G110Ov10310b10k10b10Sn10Ek10g10l10o10510f10a10e10E510110Sk10g10l10h10610810610Y410O110-",
  "210Md10f10Kk10q10e20l10e10410110Y910110Gb10wr10q10v10e10110s10v10i10410b10610m10YC110n10c10q10",
  "l10k10510r10u10h10710Em10310I420w710Yl20310-810110MV110E110b10610110t10410g10k10510910o10610b1",
  "0510H110a10Y110E510X610110e10Wa10yn10110710d10A110110910b10I110t10v10g10h10U110J110m10z310G310",
  "410Q210p10n10l10Mn10f10810510b10k20f10Cu10510710A110510a10E110P110q10410p10n10E110B110A110f10j",
  "10O110410510Qg10G310I210110110O610c10310310Yl10c10310h10110g10e10410n10110e10710o10J110Ef30610",
  "wt10E120610U610510410g10910WA110R210c10K210X110410H110y110R110Y110n10g10B110p10C110c10D110I210",
  "_110C210r10810o10B110410wC120310Ee10I210610PRs10wRs10d10a10M410110610O810410b10610d10c10f10610",
  "E310410510410E210M530M610S810910310Kd10710310810h10q10d10910410110Ub10Y110Y210720I210o10K11041",
  "0110Y710110510710410n10610W110Z110s10l10810-p10h10710910C110v10s10510j10m10910410m10d10410Ij10",
  "310G510E210110M110u10c10110110110I210i10BCH120Cm10C610wb10OP110410d20610410yC110610310O310WC13",
  "0II110wa10-k10YD110YQ110i10510710610410M710U510110Cg10SA210d10H110a10g10r10I110510n10W110X1103",
  "10C110E810A510Y510wA210s10d10j10K110j30c10D110q10f10s10Eu10310510910610Aa20310110310UC110b10r1",
  "0o10G510Uk10Sm20b10w210Yi10310c10910910e10E910Ob20Ws10i10510p10u10Cb10310Yo10110610f10e10f10m1",
  "0f10410n10Ge10110S310610C310M420U710-l10310-810510410QY110c10710H110g10e10r10510K110c10c10_110",
  "e10810d10l10-110j10i10B110810yB110b10i10p20E110610110910j10o10h10m10f10Am10f20710k10910710a107",
  "10-210-210110A410Ul10f10410j10G110610310h10k10710t10A110a10Ye10I310110I210Y620410Ga10310610310",
  "Ec10m10910h10a10o10O410A910110320610C610Yo10110C710510CD110N110g10p10Q110j10S210p10_110q10_210",
  "w310X110k10U110l10r10B110k10r10E110K110Mp10w520Mg10Q410420710310w810810110O230w710510810b10Q61",
  "0310310610U810110710G620G710910A110f10e10h10e10310e10710910310f10ya10S410110810310W210Gb20l103",
  "10c10410710s10X110610K110v10510o10v10o10d10wp10k10i10b10810N110u10f10s10a20t10D110i20910d10Y11",
  "0D110g10e10F110k10c10g10z110Yi10510-210Y310C310G120o10i30BCG110WX110610310AD110EG110CI120Oi20C",
  "d20QD110yR110110110310Yc10Sg10920-A210510b10310C110f10520wU210d10b10g10510510C110j10e10910110e",
  "10910f10s10Et20I910Kd10110yj10Cv10110I110-210-d10420310K210Gj10310820710a10S810Yb10320U810El10",
  "110410510310Sa10wo10610610110Uj10K410U710Em10310E310w520Sx110F210410510w110V110j10s10a10710e10",
  "t10YB110h20c10710610wk10610G510y310Sm10k10p10m10910410410c10CE110Qd10410710Kd10520310610410Gj1",
  "0Mb10310M710310520QF110g10P110K210B110a10L110O110910Q110t10n10P110m10h10A110e10g10710P110u10B1",
  "10E110l10510A110L110W110l10Qt10410110-k20U810410E420E610420710E620y810310m10p10110g10-d1041051",
  "0910310o10p10a10k10l10U910610710U410410110Uf10510B110s10q10T110Q410R310e10f10C110510l10Mp10b10",
  "m10d10l10c10f10m10a10n10g10s10F110k10d10g10c10j10a10Y110L110F110A120Ef10410110W410110610110U41",
  "0310w210a10310110710Q310NFH110110-l10110YC210b20UI210110II110810Ei10YQ110yR110O-210b10e10l10g1",
  "0GU220c10320720Ot10510110Km10Sp10Gl10Mm10wl10810310KS110110-910Qp10520610910e10Ac10y610K710wq1",
  "0WD210E110710d10810d10510s10e10p10110i10l10e10IA110n10310a10810f10u10-110Gi10710a10510-810-n10",
  "110F310K320Kp10810W910-d10310Ed10510410Su10320I710MI110710910p10I110110n10i10t10q10l10I110t10I",
  "r10110110El10a10K810E210G810K610510b10Q910310Ge10810i10310310110d10a10y810Q410420310I210Q110Sd",
  "10r10110A110h10a20910510Mp10110c10a10c10610a10B110e10310f10b10S110J120r10Y110N110710-110R110U1",
  "10V110Qc10E210-410610110y210510410O110w110O110110y210RNI110wA410110c10MK110Ut20SI110710Ci10-C3",
  "10110c10710S-210520Ig10QE230910Ys20U810Md10Sl10510810310Mp10A410QI110-710Yb20Mu10a10510410110U",
  "910510Aq10yb10Q310OF110w810Sy120310d10c10810Mv10710310810910Yk10y410110w310Go10c10310810110b10",
  "Mp10Ao10110c10f10310c20Sc10410Ku10KQ110810b20810f10310620510SP110Ia10O810110E610S810e10Gf10a20",
  "f10610d10410110i10310A810S410E110A110W110110Cf10410h10a10l10b10s10910910510310m10d10Kq10h10o10",
  "710t10a10o10l10s10k10v10110310-110_110g10Sd10U310K410310110A110S210U210q10JGH110Yl10-E310110W8",
  "10Wt10WI110OFl10_Nk10EL110420KS110710C710Kl10MC220510Wb10CJ210110Qs10Am10110410wO110Im10GJ2101",
  "10-C110Oz110yy110c10d10610l10k10610Ev10410710a10Gk10310110W810yo10410510510wb10Id10-n10Yc10110",
  "SF110MK110p10g10b10e10MW120W310MF110610Kc30Ej10c10f10b10610310k10810p10410wq10710f10n10g10q10H",
  "110E110J110q10f10o10310r10k10g10110l10a10Kd10s10E220G110M110Y110110110q10o10E210110320XJE110b1",
  "0CI210-h10AM410As20KC210YU210410710610Gs10QL110k10AP110Gm10-710110IL110wC110Ef10IO110Mz110Kv10",
  "110310M110SU120SQ130510CS110110a10SK110520YH110C610510810A810y110SH110O710I810Ug10810110710710",
  "410Eq10710i10710610110920g10j10310e10Y910y710Q210y230DKE110UF710U810AW220310610QU210Is10I810yS",
  "220Am10AT110410W810Iq10310610310OU120KG230CT120410110I810Sp20YQ110110110Wy210110410410410MN110",
  "Si10we10SQ110c10110yp10410610110610110A910I510I110y310C310610110110VFE110QUc10SA610wy510MX210I",
  "f10wR110CL110810310110W-210IB110110310810-p10110Ge10I110U910XTn10510EJ610GX410It10110410-V110y",
  "f10wA110A210EI410Qi20Q510K910U410Sb10420wb10CP110410Cj10BUu10OR410SQ310KCa10YF410Uz210320Q-210",
  "110Mc10WO110_-l10ECa10IV210IO410M_310yD110DEk10M_h10-A110Gq10Hxm20UDn10Ud10J310-410NRj10QDd10T",
  "-410HBo10OZ310KFe10Zwg10Lwq10E110t10i10o10h10h10u10n10l10E110t10i10o10h10h10u10n10f10E110t10i1",
  "0o10h10h10u10n10l10110w120410110yHN310UVC410XGZ510IQZ510M-s10RHz610NJB110UTo10TDh10XWd10SPJ810",
  "EKA110_Jx710OJD610ZOL610Uzy610XIC710PP810JG210IFT710OHA110TQD210GRU110xKM110TVB710EUK710JOK710",
  "CSO810WV610HIC110CLa10xZi10TOK710KVZ610TzR610YzR610R310XGK610IUK610DwZ610I810NIe10IJe10yVD110R",
  "SQ110GNG110yYC710ZRC110NSZ610IFR710TER710KJz610wPa10NBf10WEh10Dwf10KKm10_Kc10BA_610W_l10MD_510",
  "MOr10NOV710c10YXF110VWF110c10410JPa10OPa10GNy710FPy710-210Am10Jl10A-o10zId10--G710DxL710_W610W",
  "110M110S710x510w310K210o10AVk10wS410DGp10wSp10MQS710xAM810Szx810JZw810AZc10OKI710XCr10QJr10RLW",
  "710C110yJy610NRP610WFV610VQX610Ux510VY910_Zg10xz210YBP710VQS610VTm10WM710e10OTZ810ZSZ820OBB710",
  "w710ZCP610FFi10QQx810VPx810m10610S_f10WyR710RBM810GEq10Vzf10810IIc10__e10Kx410JC210xSc10IOI710",
  "zwx610WAW710PE910ZwM710CIy610HGy610MGe10xUd10YS810IQ310xOc10MOL810zzO110NBy610xc10K110xP610OWH",
  "710_C410RSI710SZH710-G-110HSR110BVI710TF410EU310Q-f10BJf10G210Y510ENB710GWj10POz710GO_710DYO71",
  "0CAV610ZHz610MJ810wxF710L-F710i10_F810410EKh10__g10MJA110RYB110EQ110B110310SHw810FUK910YCO710R",
  "Qz610-FV710NTK710wB210RUc10BJg10wyw810PJK810AD-610FB-610CF-610-Qn10ZTV710-yZ710RZZ710y410RUh10",
  "-Xh10710AWy610BUy610IQ110XL210wAF910PNP110JKX610DDP110yXh10OY710F-o10MZr10K-T610TB-610BN210-TA",
  "710ZYI610XTl10KYZ610GTP110Sa10xUK110FA_610EC_610R410I_K110JDA810OLV610Fl10XN-610YEK810TZJ810P4",
  "10ZXh10GMJ810DTX710zWh10yYh10-yc10DZc10yMK810ZEF110zyT710YYN710zzQ710MYP710JDy610Fx510MK410EB5",
  "10XA510EJP810TAz810SF410Owy610zCT610WY210INy610QZv10NCK110DxU610L510ZI710KP710-T_610BT_610Wxb1",
  "0Txb10CJA710GIH110zNH810XW910Qw910I610c10Y910yGA710y310NSA710g10y210yVA710T-A710wh10KSi10zMF11",
  "0INI810PLk10Ui10XOP610BFF110YY110YGh10YF610JB610a10EET710R-r10ZSy610zO210SB810PS510SyB710PWy61",
  "0We10yYS810RYS810410VFj10YFj10EU410wzl10xQq10ILR610GNx310Lx-a10Az610YIF710__Z610yUE810PLC110PH",
  "C710SRC710xQC710UFs10CLL710XPH810yyp10MPx710zIV810Bv10NFg10CPK810LOp10yYI110_IF110DJK610QMY510",
  "WYD210P_U810IF310E_Y610HRP710IG210xY310OVg10ICI710FEX610BTt10yFh10c10u10-MU710q10IMo10zwC810Fy",
  "h10-x410IM310AMh10DOh10IWLa10HzE210BVG810ZY710EGw610zMS610Zz210wAS710PVb10XID710UyU810Ay610ZYx",
  "810xJk10yEY710zb10xJE710Sj10Ey110Fp10wYO610FFP610WKw610VJw610QTF710BKF710GHT710PyH810CCl10_310",
  "MZX610yG210XWZ610UP510YK_610DCL610QHU610CJb10XDZ710810MZn10JBN110Izk10F-k10MPl10Sy410ERN710910",
  "xJS710P110r10-RF710RMF710WYR710RA_710UJd10RPi10CVL710REZ610610HA310CCK710P-G710-zF720HxF710AWF",
  "720TVF710UCU610xAU610-XV710FXV720Syx610I_910GyJ110XCK110WUg10xUN710ETY610FVH610DKp10UJO710KI31",
  "0LPH810-Mn10QyG710HGI710i10910WGN710ASH110LRU810xOh10STh10yC310Y-h10VDl10K-F710Uxs10FUC810EBG7",
  "10xIF710U210INQ810XWQ810_a10UQG710XMG710110xyl10BT110WD-710XLz710YCm10Kr10SOQ810xUD910UDj10E61",
  "0N_m10QCE710LGA610FNp10SWc10AGG710zSa10JOx610yLG710LGG710TKn10yxl10OR110INT810zYK910ARn10MAP61",
  "0JEU610OF510-310SF-610PRy610MCG710LSr10Gwa10PBR710COe10STT710RXH710WRJ710_RJ710W510IFy610MGi10",
  "AGh10NP_710Yya10Zwa10GUI710NPy710QPy710O-110QW310n10ND610H-C810MA310OEI710zwY510MHL610PW610DQS",
  "610PVb10yOC810Y710U410JFA810T310Ai10Q810WHN710TP410w-m10zTU710CEV710ZwO810KNd10Co10CBb10GPD810",
  "DPO810AAI710XzE710-SF710LxC710ZX510xx910UxK710FFA710VOs10AJs10GJH710LTH710wZS610Mwl10POz710WJH",
  "110XKi10Q110xAp10MCp10Y_Q810JDK910IGp10KwI710BXI710yLI710Ic10Xh10R410X310Wo10_VX710OXX720N110w",
  "Jg10DZY710G310S210L210W410i20i10Vzn10XR110Yyp10x110COI710XUI710U110ZLb10EMb10I210DNa10SMT710LB",
  "J710GBh10-VX610JZI710ySJ710wy210910PGM710yCN810VSN810Cl10IDh10ZCh10HQc10ETt10zBh10wRg10IMB710N",
  "zR710E110ITL710NLQ710QZ410410DAq10--Y710NDE710AT310KU110Qa20QPK710QAA110xT_810OR_810XNK810c10C",
  "a10J210AJM610I_O110JGx710A810SZG710VPl10wTp10BAS710xVn10EPJ810T210y610HAL710y110DR510GSQ710Z-K",
  "710UYI610XOD710KYq10CFw610ZEw610EFN810VGN810F610E910GU710ZU710XTu10IUu10wXf10Jyk10MF510zSl10ST",
  "A810ZS410UR410MRA110REY810wLY810JWZ110LzR610AMS610THS610J210K310WxM810xIw110HH_610KNZ810NSz710",
  "PDf10510w110e10IBN710xHI810-AH810JYL710Bj10Ck10M110y410U210K210310A210e10-XW710JWW710-V510N_E1",
  "10SRY810510ZGZ710810E110K110GNy710ZTV710WDG710Ae10BWp10xPT610g10U110BJ910CXW710PMN710IVz610ZPz",
  "610KxI810810NKZ110ZMP610K110wWN610YJr10PUQ710K-710Q110o10Eze10NXe10ELO710RQO710w510F810WV-710H",
  "FT710HT310OKB810PKl10NGt10LJW610UX710x_f10yH810ONP710TLP710YZA810Z_A810w610zX510YPB810xHZ810yR",
  "t10OUL810RTL81"]

end HttpCall.CharsetIndex
