/-!
# Single-byte indexes

The code points of bytes `0x80` to `0xFF` of each single-byte encoding, pointer `byte -
0x80`; a missing pointer is a byte that decodes to an error. Each index is written as
runs of consecutive pointers that map to consecutive code points. A run is three
numbers: the pointers skipped since the previous run, the difference of its first code
point from the last one of the previous run (even numbers for steps up, odd ones for
steps down), and its length. Numbers are written in base 32, least significant digit
first, with the digits `0`-`9`, `a`-`v` ending a number and the letters `A`-`Z`,
`w`-`z`, `-` and `_` continuing it; each text is kept as a list of its lines.
-/

namespace HttpCall.CharsetIndex

/-- The upper half of ibm866, line by line. -/
def ibm866Lines : List String := [
  "0AB2Q10EVg30B910E210w320n10110s10D110c10c10110110V410810A210f10v10X110Y310E220910b10K110510b10",
  "v10Y110920720n10110b20Q110110D510n10Y710710g10810v10_Tgg0x410A510Z410A510Z410A510R410A510xw110",
  "SWg10DWg10GWg10Hg10DHg10YPi10_Pi1"]

/-- The upper half of iso-8859-2, line by line. -/
def iso8859n2Lines : List String := [
  "0A8B10I610It10Np10Z910S910w110Fb20Qb10310c10K110Xc10Ad10310Vc10K510Mt10Rp10x810U810w110Ym10zA1",
  "10Sa10310c10K110Gm10zl10310P210F920A410x310K710F310z310K410F410-410Z410-410Z420A410410G310810H",
  "720Y710T720C810M110H910M910H920K810F810M710H720C210z110M510F310_110M210H210A310x210A310x220C21",
  "0410G310810J520w510V520E610M110J710O710J720M610Mn1"]

/-- The upper half of iso-8859-3, line by line. -/
def iso8859n3Lines : List String := [
  "0A8B10M810Er10JD121A810Z720Q810y210_310M110N811yc10Vc10O710J740A710x620S710y210_310M110P711-b1",
  "0Xb31410M410310B491440Y410T420K410F440A910v10Z741410O210310D291440w210V220M210H240C710v10Yn1"]

/-- The upper half of iso-8859-4, line by line. -/
def iso8859n4Lines : List String := [
  "0A8B10I610I310y110Db10I810G110H920Qb10x410A110I410Rb10Ad10xc20K510Mt10Ho10Fa10K710G110Wo10zA11",
  "0Sa10x410A110I410Z110I310F310V410z360Q610D210F410-410Z410W410R420Y510T110K310e10L110D650U910P9",
  "30Y810410V810E210_160S410D210H210A310x210Y210T220w310T110K310e10L110F450W710R730w610410ym1"]

/-- The upper half of iso-8859-5, line by line. -/
def iso8859n5Lines : List String := [
  "0A8B10CW1c0zV110CW1C20OMe10JMec0Jx110Ox12"]

/-- The upper half of iso-8859-6, line by line. -/
def iso8859n6Lines : List String := [
  "0A8B13817QW210zV21dyW2138114q5cj"]

/-- The upper half of iso-8859-7, line by line. -/
def iso8859n7Lines : List String := [
  "0A8B10QXf20LXf10SAg10610RAg40CN110zM131QWf10JWf40CN130zM110CN130zM110CN110zM110CN1k14M1"]

/-- The upper half of iso-8859-8, line by line. -/
def iso8859n8Lines : List String := [
  "0A8B11480y210X2f0y310X34A1SVf10NEdr2ICd2"]

/-- The upper half of iso-8859-10, line by line. -/
def iso8859n10Lines : List String := [
  "0A8B10I610s10A110g10310s10z810I910V210A510c10O110_c10wb10_110T910K510s10A110g10310s10_710K810V",
  "210A510c10O110OJf10TKf10_110V410z360Q610D210F410-410Z410W410R440K710e10R740E910_810U910P960E21",
  "0_160S410D210H210A310x210Y210T240M510e10T540G710B710W710R750U31"]

/-- The upper half of iso-8859-13, line by line. -/
def iso8859n13Lines : List String := [
  "0A8B10wXf10VXf30UXf10PXf20C310z210wa10Va40Q110L140SWf10NWf30C410z310y910X940Q210y110U210x210c1",
  "0D420G510b10b10F410Ab10F610o10I110n10C110K210Z110410D710S710N730W910B310S110A110x810-910410x91",
  "0M210U210x210c10F220I310b10b10H210C910F610o10I110n10C110K210Z110410F510U510P530Y710B310S110A11",
  "0z610A810410WJf1"]

/-- The upper half of iso-8859-14, line by line. -/
def iso8859n14Lines : List String := [
  "0A8B10EWe20_Ve10O620-Pe10FWe10Sze10Nze10Sze10N710Oe10JEf20Uc10MKe20zPe20-Re20VYe10Awe10W210T21",
  "0Y210F210G910z620H210Bweg0Ka10Fa60IZe10DZe60S910N9h0M810H860KXe10FXe60U710P71"]

/-- The upper half of iso-8859-15, line by line. -/
def iso8859n15Lines : List String := [
  "0A8E10SAg10NAg10Wb10Rb10Ub10Pbb0Uc10Pc30Oc10Jc30O920K210RbB2"]

/-- The upper half of iso-8859-16, line by line. -/
def iso8859n16Lines : List String := [
  "0A8B10I620Y310WWf10x810xLf10Rb10Ub10Pb10-m10Zm10yc10Xc10wc20Vc20W510M310W310AKf10NWf20Oc10B710",
  "Yg10xl10O920K210810Xb30A410x310E410_3a0C410G310B730Y710T710I810M110N940Y310Eg10Vj40C210z110G21",
  "0B2a0E210G310D530w510V510K610M110P740w110Eg10Xh1"]

/-- The upper half of koi8-r, line by line. -/
def koi8RLines : List String := [
  "0AQi10410k10810810810810g10g10g10g10I410810810810840FH110AI110NY120y210Y120Jyg10CIh10BHh10410a",
  "10A410SFi30BQg10EQgf0_Vg10CWgb0FMi10Kw110x120K110D120u10B110E110p80A110t40p10710U110110H110C11",
  "0a10710310610X110x120K110D120u10B110E110p80A110t40p10710U110110H110C110a1071031061"]

/-- The upper half of koi8-u, line by line. -/
def koi8ULines : List String := [
  "0AQi10410k10810810810810g10g10g10g10I410810810810840FH110AI110NY120y210Y120Jyg10CIh10BHh10410a",
  "10A410SFi30BQg10610AQg10xPg20AQg50TMg10F310AQg40_Vg10610-Vg10ZVg20-Vg50TNg10D810JW110Kw110x120",
  "K110D120u10B110E110p80A110t40p10710U110110H110C110a10710310610X110x120K110D120u10B110E110p80A1",
  "10t40p10710U110110H110C110a1071031061"]

/-- The upper half of macintosh, line by line. -/
def macintoshLines : List String := [
  "0Ic20410410g10a10c10a10110410410110410410410110420410110420410410110410410110a10110420ISf10_Wf",
  "10r20810WXf10XWf10S210B310910SHg10xGg10n10Qxg10TZg10E110MUg10ZWg10Gxg20_xg10A110wUg10u10310zEf",
  "10WGf10BYg10A110-O110FM110E110R310x110m10yWg10PIg10MLg10D410VVg10A110WWf10LYf10A210610E110w720",
  "AMf20g20920DSf10GNi10VMi10S710YMf10Q610F720OMN320BON310TWf10GWf10810E110xWf10g10h10k10510a3051",
  "0e20WCy310ZCy310g20310Q510Kp10M110ZC110SC130DC110KC110310H11"]

/-- The upper half of windows-874, line by line. -/
def windows874Lines : List String := [
  "0YKg10VCg40Ewf10_Zfb0QYf20620a10t20XXf90CW6w14at"]

/-- The upper half of windows-1250, line by line. -/
def windows1250Lines : List String := [
  "0YKg10VCg10SZf10NZf10WZf10g10b20RZf10Qwf10_Mf10SNf10zNf10k10S110710Re10QYf20620a10t20XXf10UIg1",
  "0Byf10SNf10zNf10k10S110710Td10OC110C110Np10Z910A610x540Kb10Fb40wc10Vc20UC110Rp10x850w410U510Ha",
  "10E810Aq10zp10y310P210F920A410x310K710F310z310K410F410-410Z410-410Z420A410410G310810H720Y710T7",
  "20C810M110H910M910H920K810F810M710H720C210z110M510F310_110M210H210A310x210A310x220C210410G3108",
  "10J520w510V520E610M110J710O710J720M610Mn1"]

/-- The upper half of windows-1251, line by line. -/
def windows1251Lines : List String := [
  "0EA220OBe10Nyd10Wyd10g10b20W810X710NCe10ADe10zCe10410110810G410Myd20620a10t20XXf10UIg10RMe10C-",
  "d10_zd10410110810zx110yW110A510L510HW110Y-110T-120UV110PV110WV110RV140SV110NV120KV110A510W310X",
  "z130UZ110KMe10DMe10RZ110wZ110F510A510410N4A2"]

/-- The upper half of windows-1252, line by line. -/
def windows1252Lines : List String := [
  "0YKg10VCg10SZf10PIf10YIf10g10b20VVe10UWe10_Mf10SNf10NOf10Jc10Af10xe20QYf20620a10t20PTe10MEf10B",
  "yf10SNf10NOf10Lb10Ce10b10PdA3"]

/-- The upper half of windows-1253, line by line. -/
def windows1253Lines : List String := [
  "0YKg10VCg10SZf10PIf10YIf10g10b20RZf10Qwf10Lwf10-wf10Zwf50QYf20620a10t20XXf10UIg10PIg10Awf10xZf",
  "50KO120FO171440OWf10JWf40CN110zM130CN130zM110CN110zM110CN1k14M1"]

/-- The upper half of windows-1254, line by line. -/
def windows1254Lines : List String := [
  "0YKg10VCg10SZf10PIf10YIf10g10b20VVe10UWe10_Mf10SNf10NOf10Jc40QYf20620a10t20PTe10MEf10Byf10SNf1",
  "0NOf10Lb20Ud10PdQ10-410Z4c0I510y210z7h0A310x2c0K310y210_51"]

/-- The upper half of windows-1255, line by line. -/
def windows1255Lines : List String := [
  "0YKg10VCg10SZf10PIf10YIf10g10b20VVe10UWe10Lwf10-wf10Zwf50QYf20620a10t20PTe10MEf10PIg10Awf10xZf",
  "80OAg10JAg50y210X2f0y310X350CP2k0w257H2r2ICd2"]

/-- The upper half of windows-1256, line by line. -/
def windows1256Lines : List String := [
  "0YKg10xCd10YZc10PIf10YIf10g10b20VVe10UWe10Nxc10Ayc10NOf10IT210E110v10O210SWc20620a10t20VWc10SH",
  "d10BJd10Swc10NOf10SLf20FVc10TB310YW210TW280KB310FB3f0EW210_V240CW210Ea10_9m0zV210AW240c40FW210",
  "IW210DW210GW240BW250yV220XV220YV240TV210WV220RV210UV210PV210SV210NV220ERf20ZTc1"]

/-- The upper half of windows-1257, line by line. -/
def windows1257Lines : List String := [
  "0YKg10VCg10SZf10NZf10WZf10g10b20RZf10Qwf10Lwf10-wf10Zwf10Y110-B110zA110P210QYf20620a10t20XXf10",
  "UIg10PIg10Awf10xZf10G110YC110XD121431420C310z210wa10Va40Q110L180C410z310y910X940Q210y110U210x2",
  "10c10D420G510b10b10F410Ab10F610o10I110n10C110K210Z110410D710S710N730W910B310S110A110x810-91041",
  "0x910M210U210x210c10F220I310b10b10H210C910F610o10I110n10C110K210Z110410F510U510P530Y710B310S11",
  "0A110z610A810410Wl1"]

/-- The upper half of windows-1258, line by line. -/
def windows1258Lines : List String := [
  "0YKg10VCg10SZf10PIf10YIf10g10b20VVe10UWe10Lwf10-wf10NOf10Jc40QYf20620a10t20PTe10MEf10PIg10Awf1",
  "0NOf10Lb20Ud10PdD10A410x380KD110FD130C410z310QD110LD120Yc10Tc70Gd10Il10HC140C210z180MB110HB130",
  "E210_110ED110_C120wa10Va70Ib10WPf10Xwf1"]

/-- The upper half of x-mac-cyrillic, line by line. -/
def xMacCyrillicLines : List String := [
  "0AB2A10C_d10_Wf10A-110Z-110810WXf10XWf10AV110PV110910SHg10_Re10A510yAf10ZFf10A510Wye10ZWg10Gxg",
  "20zAf10Bw110Yz110R810710A510Z410A510x410A510z410A510310F510RV110yWg10PIg10MLg10D410VVg10A110WW",
  "f10LYf10WW110A510z410A510d10yxd20g20920DSf10OSf10_Ae10A510z410A510OLe10JRe10A510310z1v0yFe1"]

end HttpCall.CharsetIndex
