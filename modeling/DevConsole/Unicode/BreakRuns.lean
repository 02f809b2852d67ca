/-!
# The runs of the break properties

The classes of characters by which a text is cut into what a reader takes for characters, words and
sentences. A run is the long name of the class and the number of code points.
-/

namespace DevConsole.Unicode

/-- The names of the values of Grapheme_Cluster_Break, each abbreviation before the long name. -/
def graphemeBreakNames : String :=
  String.join
    ["CN Control CR CR EX Extend L L LF LF LV LV LVT LVT PP Prepend RI Regional_Indicator SM ",
     "SpacingMark T T V V ZWJ ZWJ"]

/-- The property Grapheme_Cluster_Break. -/
def graphemeBreakRuns : String :=
  String.join
    ["Control10LF1Control2CR1Control18Other95Control33Other13Control1Other594Extend112Other275",
     "Extend7Other263Extend45Other1Extend1Other1Extend2Other1Extend2Other1Extend1Other56Prepend6",
     "Other10Extend11Other1Control1Other46Extend21Other16Extend1Other101Extend7Prepend1Other1",
     "Extend6Other2Extend2Other1Extend4Other33Prepend1Other1Extend1Other30Extend27Other91",
     "Extend11Other58Extend9Other9Extend1Other24Extend4Other1Extend9Other1Extend3Other1Extend5",
     "Other43Extend3Other52Prepend2Other5Extend9Other42Extend24Prepend1Extend32SpacingMark1",
     "Other54Extend1SpacingMark1Extend1Other1SpacingMark3Extend8SpacingMark4Extend1SpacingMark2",
     "Other1Extend7Other10Extend2Other29Extend1SpacingMark2Other56Extend1Other1Extend1",
     "SpacingMark2Extend4Other2SpacingMark2Other2SpacingMark2Extend1Other9Extend1Other10Extend2",
     "Other26Extend1Other2Extend2SpacingMark1Other56Extend1Other1SpacingMark3Extend2Other4",
     "Extend2Other2Extend3Other3Extend1Other30Extend2Other3Extend1Other11Extend2SpacingMark1",
     "Other56Extend1Other1SpacingMark3Extend5Other1Extend2SpacingMark1Other1SpacingMark2Extend1",
     "Other20Extend2Other22Extend6Other1Extend1SpacingMark2Other56Extend1Other1Extend2",
     "SpacingMark1Extend4Other2SpacingMark2Other2SpacingMark2Extend1Other7Extend3Other10Extend2",
     "Other30Extend1Other59Extend1SpacingMark1Extend1SpacingMark2Other3SpacingMark3Other1",
     "SpacingMark3Extend1Other9Extend1Other40Extend1SpacingMark3Extend1Other55Extend1Other1",
     "Extend3SpacingMark4Other1Extend3Other1Extend4Other7Extend2Other11Extend2Other29Extend1",
     "SpacingMark2Other56Extend1Other1SpacingMark1Extend2SpacingMark1Extend1SpacingMark2Other1",
     "Extend3Other1Extend4Other7Extend2Other11Extend2Other15SpacingMark1Other12Extend2",
     "SpacingMark2Other55Extend2Other1Extend1SpacingMark2Extend4Other1SpacingMark3Other1",
     "SpacingMark3Extend1Prepend1Other8Extend1Other10Extend2Other29Extend1SpacingMark2Other70",
     "Extend1Other4Extend1SpacingMark2Extend3Other1Extend1Other1SpacingMark7Extend1Other18",
     "SpacingMark2Other61Extend1Other1SpacingMark1Extend7Other12Extend8Other98Extend1Other1",
     "SpacingMark1Extend9Other11Extend7Other73Extend2Other27Extend1Other1Extend1Other1Extend1",
     "Other4SpacingMark2Other49Extend14SpacingMark1Extend5Other1Extend2Other5Extend11Other1",
     "Extend36Other9Extend1Other102Extend4SpacingMark1Extend6Other1Extend2SpacingMark2Extend2",
     "Other23SpacingMark2Extend2Other4Extend3Other16Extend4Other13Extend1Other1SpacingMark1",
     "Extend2Other6Extend1Other15Extend1Other98L96V72T88Other349Extend3Other946Extend4Other28",
     "Extend3Other29Extend2Other30Extend2Other64Extend2SpacingMark1Extend7SpacingMark8Extend1",
     "SpacingMark2Extend11Other9Extend1Other45Extend3Control1Extend1Other117Extend2Other34",
     "Extend1Other118Extend3SpacingMark4Extend2SpacingMark3Other4SpacingMark2Extend1SpacingMark6",
     "Extend3Other219Extend2SpacingMark2Extend1Other57SpacingMark1Extend1SpacingMark1Extend7",
     "Other1Extend1Other1Extend1Other2Extend8SpacingMark6Extend10Other2Extend1Other48Extend31",
     "Other49Extend4SpacingMark1Other47Extend10SpacingMark4Extend3Other38Extend9Other12Extend2",
     "SpacingMark1Other30SpacingMark1Extend4SpacingMark2Extend6Other56Extend1SpacingMark1Extend2",
     "SpacingMark3Extend1SpacingMark1Extend5Other48SpacingMark8Extend8SpacingMark2Extend2",
     "Other152Extend3Other1Extend13SpacingMark1Extend7Other4Extend1Other6Extend1Other2",
     "SpacingMark1Extend2Other198Extend64Other523Control1Extend1ZWJ1Control2Other24Control7",
     "Other49Control16Other96Extend33Other3070Extend3Other141Extend1Other96Extend32Other554",
     "Extend6Other105Extend2Other30164Extend4Other1Extend10Other32Extend2Other80Extend2Other272",
     "Extend1Other3Extend1Other4Extend1Other23SpacingMark2Extend2SpacingMark1Other4Extend1",
     "Other83SpacingMark2Other50SpacingMark16Extend2Other26Extend18Other13Extend1Other38Extend8",
     "Other25Extend11SpacingMark1Extend1Other12L29Other3Extend3SpacingMark1Other47Extend1",
     "SpacingMark2Extend4SpacingMark2Extend2SpacingMark2Extend1Other36Extend1Other67Extend6",
     "SpacingMark2Extend2SpacingMark2Extend2Other12Extend1Other8Extend1SpacingMark1Other46",
     "Extend1Other51Extend1Other1Extend3Other2Extend2Other5Extend2Other1Extend1Other41",
     "SpacingMark1Extend2SpacingMark2Other5SpacingMark1Extend1Other236SpacingMark2Extend1",
     "SpacingMark2Extend1SpacingMark2Other1SpacingMark1Extend1Other18LV1LVT27LV1LVT27LV1LVT27LV1",
     "LVT27LV1LVT27LV1LVT27LV1LVT27LV1LVT27LV1LVT27LV1LVT27LV1LVT27LV1LVT27LV1LVT27LV1LVT27LV1",
     "LVT27LV1LVT27LV1LVT27LV1LVT27LV1LVT27LV1LVT27LV1LVT27LV1LVT27LV1LVT27LV1LVT27LV1LVT27LV1",
     "LVT27LV1LVT27LV1LVT27LV1LVT27LV1LVT27LV1LVT27LV1LVT27LV1LVT27LV1LVT27LV1LVT27LV1LVT27LV1",
     "LVT27LV1LVT27LV1LVT27LV1LVT27LV1LVT27LV1LVT27LV1LVT27LV1LVT27LV1LVT27LV1LVT27LV1LVT27LV1",
     "LVT27LV1LVT27LV1LVT27LV1LVT27LV1LVT27LV1LVT27LV1LVT27LV1LVT27LV1LVT27LV1LVT27LV1LVT27LV1",
     "LVT27LV1LVT27LV1LVT27LV1LVT27LV1LVT27LV1LVT27LV1LVT27LV1LVT27LV1LVT27LV1LVT27LV1LVT27LV1",
     "LVT27LV1LVT27LV1LVT27LV1LVT27LV1LVT27LV1LVT27LV1LVT27LV1LVT27LV1LVT27LV1LVT27LV1LVT27LV1",
     "LVT27LV1LVT27LV1LVT27LV1LVT27LV1LVT27LV1LVT27LV1LVT27LV1LVT27LV1LVT27LV1LVT27LV1LVT27LV1",
     "LVT27LV1LVT27LV1LVT27LV1LVT27LV1LVT27LV1LVT27LV1LVT27LV1LVT27LV1LVT27LV1LVT27LV1LVT27LV1",
     "LVT27LV1LVT27LV1LVT27LV1LVT27LV1LVT27LV1LVT27LV1LVT27LV1LVT27LV1LVT27LV1LVT27LV1LVT27LV1",
     "LVT27LV1LVT27LV1LVT27LV1LVT27LV1LVT27LV1LVT27LV1LVT27LV1LVT27LV1LVT27LV1LVT27LV1LVT27LV1",
     "LVT27LV1LVT27LV1LVT27LV1LVT27LV1LVT27LV1LVT27LV1LVT27LV1LVT27LV1LVT27LV1LVT27LV1LVT27LV1",
     "LVT27LV1LVT27LV1LVT27LV1LVT27LV1LVT27LV1LVT27LV1LVT27LV1LVT27LV1LVT27LV1LVT27LV1LVT27LV1",
     "LVT27LV1LVT27LV1LVT27LV1LVT27LV1LVT27LV1LVT27LV1LVT27LV1LVT27LV1LVT27LV1LVT27LV1LVT27LV1",
     "LVT27LV1LVT27LV1LVT27LV1LVT27LV1LVT27LV1LVT27LV1LVT27LV1LVT27LV1LVT27LV1LVT27LV1LVT27LV1",
     "LVT27LV1LVT27LV1LVT27LV1LVT27LV1LVT27LV1LVT27LV1LVT27LV1LVT27LV1LVT27LV1LVT27LV1LVT27LV1",
     "LVT27LV1LVT27LV1LVT27LV1LVT27LV1LVT27LV1LVT27LV1LVT27LV1LVT27LV1LVT27LV1LVT27LV1LVT27LV1",
     "LVT27LV1LVT27LV1LVT27LV1LVT27LV1LVT27LV1LVT27LV1LVT27LV1LVT27LV1LVT27LV1LVT27LV1LVT27LV1",
     "LVT27LV1LVT27LV1LVT27LV1LVT27LV1LVT27LV1LVT27LV1LVT27LV1LVT27LV1LVT27LV1LVT27LV1LVT27LV1",
     "LVT27LV1LVT27LV1LVT27LV1LVT27LV1LVT27LV1LVT27LV1LVT27LV1LVT27LV1LVT27LV1LVT27LV1LVT27LV1",
     "LVT27LV1LVT27LV1LVT27LV1LVT27LV1LVT27LV1LVT27LV1LVT27LV1LVT27LV1LVT27LV1LVT27LV1LVT27LV1",
     "LVT27LV1LVT27LV1LVT27LV1LVT27LV1LVT27LV1LVT27LV1LVT27LV1LVT27LV1LVT27LV1LVT27LV1LVT27LV1",
     "LVT27LV1LVT27LV1LVT27LV1LVT27LV1LVT27LV1LVT27LV1LVT27LV1LVT27LV1LVT27LV1LVT27LV1LVT27LV1",
     "LVT27LV1LVT27LV1LVT27LV1LVT27LV1LVT27LV1LVT27LV1LVT27LV1LVT27LV1LVT27LV1LVT27LV1LVT27LV1",
     "LVT27LV1LVT27LV1LVT27LV1LVT27LV1LVT27LV1LVT27LV1LVT27LV1LVT27LV1LVT27LV1LVT27LV1LVT27LV1",
     "LVT27LV1LVT27LV1LVT27LV1LVT27LV1LVT27LV1LVT27LV1LVT27LV1LVT27LV1LVT27LV1LVT27LV1LVT27LV1",
     "LVT27LV1LVT27LV1LVT27LV1LVT27LV1LVT27LV1LVT27LV1LVT27LV1LVT27LV1LVT27LV1LVT27LV1LVT27LV1",
     "LVT27LV1LVT27LV1LVT27LV1LVT27LV1LVT27LV1LVT27LV1LVT27LV1LVT27LV1LVT27LV1LVT27LV1LVT27LV1",
     "LVT27LV1LVT27LV1LVT27LV1LVT27LV1LVT27LV1LVT27LV1LVT27LV1LVT27LV1LVT27LV1LVT27LV1LVT27LV1",
     "LVT27LV1LVT27LV1LVT27LV1LVT27LV1LVT27LV1LVT27LV1LVT27LV1LVT27LV1LVT27LV1LVT27LV1LVT27LV1",
     "LVT27LV1LVT27LV1LVT27LV1LVT27LV1LVT27LV1LVT27LV1LVT27LV1LVT27LV1LVT27LV1LVT27LV1LVT27LV1",
     "LVT27LV1LVT27LV1LVT27LV1LVT27LV1LVT27LV1LVT27LV1LVT27LV1LVT27LV1LVT27LV1LVT27LV1LVT27LV1",
     "LVT27LV1LVT27LV1LVT27LV1LVT27LV1LVT27LV1LVT27LV1LVT27LV1LVT27LV1LVT27LV1LVT27LV1LVT27LV1",
     "LVT27LV1LVT27LV1LVT27LV1LVT27LV1LVT27LV1LVT27LV1LVT27LV1LVT27LV1LVT27LV1LVT27LV1LVT27LV1",
     "LVT27LV1LVT27LV1LVT27LV1LVT27LV1LVT27LV1LVT27LV1LVT27LV1LVT27LV1LVT27LV1LVT27LV1LVT27LV1",
     "LVT27LV1LVT27LV1LVT27LV1LVT27LV1LVT27LV1LVT27LV1LVT27LV1LVT27LV1LVT27LV1LVT27LV1LVT27",
     "Other12V23Other4T49Other8994Extend1Other737Extend16Other16Extend16Other207Control1Other158",
     "Extend2Other80Control12Other513Extend1Other226Extend1Other149Extend5Other1670Extend3Other1",
     "Extend2Other5Extend4Other40Extend3Other4Extend1Other165Extend2Other573Extend4Other65",
     "Extend5Other317Extend2Other79Extend4Other70Extend11Other49Extend4Other122SpacingMark1",
     "Extend1SpacingMark1Other53Extend15Other41Extend1Other2Extend2Other10Extend3SpacingMark1",
     "Other45SpacingMark3Extend4SpacingMark2Extend2Other2Prepend1Other4Extend1Other10Prepend1",
     "Other50Extend3Other36Extend5SpacingMark1Extend8Other16SpacingMark2Other44Extend1Other12",
     "Extend2SpacingMark1Other48SpacingMark3Extend9SpacingMark1Extend1Other1Prepend2Other5",
     "Extend4Other1SpacingMark1Extend1Other92SpacingMark3Extend3SpacingMark2Extend4Other6Extend1",
     "Other2Extend1Other157Extend1SpacingMark3Extend8Other21Extend2SpacingMark2Other55Extend2",
     "Other1Extend1SpacingMark1Extend1SpacingMark4Other2SpacingMark2Other2SpacingMark2Extend1",
     "Other9Extend1Other10SpacingMark2Other2Extend7Other3Extend5Other67Extend1SpacingMark2",
     "Extend6Other1Extend1Other2Extend1Other1Extend3SpacingMark1Other1SpacingMark2Extend3",
     "Prepend1Extend1Other14Extend2Other82SpacingMark3Extend8SpacingMark2Extend3SpacingMark1",
     "Extend1Other23Extend1Other81Extend1SpacingMark2Extend6SpacingMark1Extend1SpacingMark2",
     "Extend1SpacingMark1Extend2SpacingMark1Extend2Other235Extend1SpacingMark2Extend4Other2",
     "SpacingMark4Extend2SpacingMark1Extend2Other27Extend2Other82SpacingMark3Extend8SpacingMark2",
     "Extend1SpacingMark1Extend2Other106Extend1SpacingMark1Extend1SpacingMark2Extend8Other101",
     "Extend1SpacingMark1Extend1Other2Extend4SpacingMark1Extend5Other256SpacingMark3Extend9",
     "SpacingMark1Extend2Other245Extend1SpacingMark5Other1SpacingMark2Other2Extend4Prepend1",
     "SpacingMark1Prepend1SpacingMark1Extend1Other141SpacingMark3Extend4Other2Extend2",
     "SpacingMark4Extend1Other3SpacingMark1Other28Extend10Other40Extend6SpacingMark1Prepend1",
     "Extend4Other8Extend1Other9Extend6SpacingMark2Extend3Other40Prepend6Extend13SpacingMark1",
     "Extend2Other405SpacingMark1Extend7Other1Extend6SpacingMark1Extend1Other82Extend22Other1",
     "SpacingMark1Extend7SpacingMark1Extend2SpacingMark1Extend2Other122Extend6Other3Extend1",
     "Other1Extend2Other1Extend7Prepend1Extend1Other66SpacingMark5Other1Extend2Other1",
     "SpacingMark2Extend1SpacingMark1Extend1Other347Extend2SpacingMark2Other9Extend2Prepend1",
     "SpacingMark1Other48SpacingMark2Extend5Other3SpacingMark2Extend1SpacingMark1Extend1Other23",
     "Extend1Other5333Control16Extend1Other6Extend15Other11464Extend12SpacingMark3Extend3",
     "Other2496Extend5Other59Extend7Other556V1Other3V4Other484Extend1Other1SpacingMark55Other7",
     "Extend4Other81Extend1Other11Extend2Other19627Extend2Other1Control4Other4700Extend46Other2",
     "Extend23Other542Extend5Other3Extend6Control8Extend8Other2Extend7Other30Extend4Other148",
     "Extend3Other1979Extend55Other4Extend50Other8Extend1Other14Extend1Other22Extend5Other1",
     "Extend15Other1360Extend7Other1Extend17Other2Extend7Other1Extend2Other1Extend5Other100",
     "Extend1Other160Extend7Other375Extend1Other61Extend4Other508Extend4Other254Extend2Other736",
     "Extend7Other109Extend7Other2203Regional_Indicator26Other507Extend5Other789504Control32",
     "Extend96Control128Extend240Control3600Other192512"]

/-- The names of the values of Word_Break, each abbreviation before the long name. -/
def wordBreakNames : String :=
  String.join
    ["CR CR DQ Double_Quote EX ExtendNumLet Extend Extend FO Format HL Hebrew_Letter KA ",
     "Katakana LE ALetter LF LF MB MidNumLet ML MidLetter MN MidNum NL Newline NU Numeric RI ",
     "Regional_Indicator SQ Single_Quote WSegSpace WSegSpace ZWJ ZWJ"]

/-- The property Word_Break. -/
def wordBreakRuns : String :=
  String.join
    ["Other10LF1Newline2CR1Other18WSegSpace1Other1Double_Quote1Other4Single_Quote1Other4MidNum1",
     "Other1MidNumLet1Other1Numeric10MidLetter1MidNum1Other5ALetter26Other4ExtendNumLet1Other1",
     "ALetter26Other10Newline1Other36ALetter1Other2Format1Other7ALetter1Other1MidLetter1Other2",
     "ALetter1Other5ALetter23Other1ALetter31Other1ALetter480Other6ALetter34Extend112ALetter5",
     "Other1ALetter2Other2ALetter4MidNum1ALetter1Other6ALetter1MidLetter1ALetter3Other1ALetter1",
     "Other1ALetter20Other1ALetter83Other1ALetter139Other1Extend7ALetter166Other1ALetter38Other2",
     "ALetter4Other1ALetter1MidLetter1ALetter41MidNum1ALetter1Other6Extend45Other1Extend1Other1",
     "Extend2Other1Extend2Other1Extend1Other8Hebrew_Letter27Other4Hebrew_Letter4ALetter1",
     "MidLetter1Other11Format6Other6MidNum2Other2Extend11Other1Format1Other3ALetter43Extend21",
     "Numeric10Other1Numeric1MidNum1Other1ALetter2Extend1ALetter99Other1ALetter1Extend7Format1",
     "Other1Extend6ALetter2Extend2Other1Extend4ALetter2Numeric10ALetter3Other2ALetter1Other15",
     "Format1ALetter1Extend1ALetter30Extend27Other2ALetter89Extend11ALetter1Other14Numeric10",
     "ALetter33Extend9ALetter2Other2MidNum1Other1ALetter1Other2Extend1Other2ALetter22Extend4",
     "ALetter1Extend9ALetter1Extend3ALetter1Extend5Other18ALetter25Extend3Other4ALetter11Other5",
     "ALetter24Other1ALetter6Other1Format2Other5Extend9ALetter42Extend24Format1Extend33ALetter54",
     "Extend3ALetter1Extend18ALetter1Extend7ALetter10Extend2Other2Numeric10Other1ALetter16",
     "Extend3Other1ALetter8Other2ALetter2Other2ALetter22Other1ALetter7Other1ALetter1Other3",
     "ALetter4Other2Extend1ALetter1Extend7Other2Extend2Other2Extend3ALetter1Other8Extend1Other4",
     "ALetter2Other1ALetter3Extend2Other2Numeric10ALetter2Other10ALetter1Other1Extend1Other2",
     "Extend3Other1ALetter6Other4ALetter2Other2ALetter22Other1ALetter7Other1ALetter2Other1",
     "ALetter2Other1ALetter2Other2Extend1Other1Extend5Other4Extend2Other2Extend3Other3Extend1",
     "Other7ALetter4Other1ALetter1Other7Numeric10Extend2ALetter3Extend1Other11Extend3Other1",
     "ALetter9Other1ALetter3Other1ALetter22Other1ALetter7Other1ALetter2Other1ALetter5Other2",
     "Extend1ALetter1Extend8Other1Extend3Other1Extend3Other2ALetter1Other15ALetter2Extend2Other2",
     "Numeric10Other9ALetter1Extend6Other1Extend3Other1ALetter8Other2ALetter2Other2ALetter22",
     "Other1ALetter7Other1ALetter2Other1ALetter5Other2Extend1ALetter1Extend7Other2Extend2Other2",
     "Extend3Other7Extend3Other4ALetter2Other1ALetter3Extend2Other2Numeric10Other1ALetter1",
     "Other16Extend1ALetter1Other1ALetter6Other3ALetter3Other1ALetter4Other3ALetter2Other1",
     "ALetter1Other1ALetter2Other3ALetter2Other3ALetter3Other3ALetter12Other4Extend5Other3",
     "Extend3Other1Extend4Other2ALetter1Other6Extend1Other14Numeric10Other16Extend5ALetter8",
     "Other1ALetter3Other1ALetter23Other1ALetter16Other2Extend1ALetter1Extend7Other1Extend3",
     "Other1Extend4Other7Extend2Other1ALetter3Other2ALetter1Other2ALetter2Extend2Other2Numeric10",
     "Other16ALetter1Extend3Other1ALetter8Other1ALetter3Other1ALetter23Other1ALetter10Other1",
     "ALetter5Other2Extend1ALetter1Extend7Other1Extend3Other1Extend4Other7Extend2Other6ALetter2",
     "Other1ALetter2Extend2Other2Numeric10Other1ALetter2Extend1Other12Extend4ALetter9Other1",
     "ALetter3Other1ALetter41Extend2ALetter1Extend7Other1Extend3Other1Extend4ALetter1Other5",
     "ALetter3Extend1Other7ALetter3Extend2Other2Numeric10Other10ALetter6Other1Extend3Other1",
     "ALetter18Other3ALetter24Other1ALetter9Other1ALetter1Other2ALetter7Other3Extend1Other4",
     "Extend6Other1Extend1Other1Extend8Other6Numeric10Other2Extend2Other61Extend1Other2Extend7",
     "Other12Extend8Other1Numeric10Other87Extend1Other2Extend9Other11Extend7Other1Numeric10",
     "Other38ALetter1Other23Extend2Other6Numeric10Other11Extend1Other1Extend1Other1Extend1Other4",
     "Extend2ALetter8Other1ALetter36Other4Extend20Other1Extend2ALetter5Extend11Other1Extend36",
     "Other9Extend1Other100Extend20Other1Numeric10Other12Extend4Other4Extend3Other1Extend3Other2",
     "Extend7Other3Extend4Other13Extend12Other1Extend1Numeric10Extend4Other2ALetter38Other1",
     "ALetter1Other5ALetter1Other2ALetter43Other1ALetter333Other1ALetter4Other2ALetter7Other1",
     "ALetter1Other1ALetter4Other2ALetter41Other1ALetter4Other2ALetter33Other1ALetter4Other2",
     "ALetter7Other1ALetter1Other1ALetter4Other2ALetter15Other1ALetter57Other1ALetter4Other2",
     "ALetter67Other2Extend3Other32ALetter16Other16ALetter86Other2ALetter6Other3ALetter620Other2",
     "ALetter17WSegSpace1ALetter26Other5ALetter75Other3ALetter11Other7ALetter18Extend4Other9",
     "ALetter19Extend3Other11ALetter18Extend2Other12ALetter13Other1ALetter3Other1Extend2Other64",
     "Extend32Other9Extend1Other2Numeric10Other33Extend3Format1Extend1Numeric10Other6ALetter89",
     "Other7ALetter5Extend2ALetter34Extend1ALetter1Other5ALetter70Other10ALetter31Other1Extend12",
     "Other4Extend12Other10Numeric10Other128Numeric10Other38ALetter23Extend5Other57Extend10",
     "Other1Extend29Other2Extend1Numeric10Other6Numeric10Other22Extend31Other49Extend5ALetter47",
     "Extend17ALetter8Other3Numeric10Other17Extend9Other12Extend3ALetter30Extend13ALetter2",
     "Numeric10ALetter44Extend14Other12ALetter36Extend20Other8Numeric10Other3ALetter3Numeric10",
     "ALetter36Other2ALetter11Other5ALetter43Other2ALetter3Other16Extend3Other1Extend21ALetter4",
     "Extend1ALetter6Extend1ALetter2Extend3ALetter1Other5ALetter192Extend64ALetter278Other2",
     "ALetter6Other2ALetter38Other2ALetter6Other2ALetter8Other1ALetter1Other1ALetter1Other1",
     "ALetter1Other1ALetter31Other2ALetter53Other1ALetter7Other1ALetter1Other3ALetter3Other1",
     "ALetter7Other3ALetter4Other2ALetter6Other4ALetter13Other5ALetter3Other1ALetter7Other3",
     "WSegSpace7Other1WSegSpace3Other1Extend1ZWJ1Format2Other8MidNumLet2Other10MidNumLet1Other2",
     "MidLetter1Newline2Format5ExtendNumLet1Other15ExtendNumLet2Other3MidNum1Other15",
     "ExtendNumLet1Other10WSegSpace1Format5Other1Format10Other1ALetter1Other13ALetter1Other16",
     "ALetter13Other51Extend33Other17ALetter1Other4ALetter1Other2ALetter10Other1ALetter1Other3",
     "ALetter5Other6ALetter1Other1ALetter1Other1ALetter1Other1ALetter4Other1ALetter11Other2",
     "ALetter4Other5ALetter5Other4ALetter1Other17ALetter41Other813ALetter52Other1814ALetter229",
     "Other6ALetter4Extend3ALetter2Other12ALetter38Other1ALetter1Other5ALetter1Other2ALetter56",
     "Other7ALetter1Other15Extend1ALetter23Other9ALetter7Other1ALetter7Other1ALetter7Other1",
     "ALetter7Other1ALetter7Other1ALetter7Other1ALetter7Other1ALetter7Other1Extend32Other47",
     "ALetter1Other464WSegSpace1Other4ALetter1Other36Extend6Other1Katakana5Other5ALetter2Other92",
     "Extend2Katakana2Other3Katakana91Other1Katakana4Other5ALetter43Other1ALetter94Other17",
     "ALetter32Other48Katakana16Other208Katakana47Other1Katakana88Other27816ALetter1165Other67",
     "ALetter46Other2ALetter269Other3ALetter16Numeric10ALetter2Other20ALetter47Extend4Other1",
     "Extend10Other1ALetter31Extend2ALetter80Extend2Other22ALetter198Other2ALetter2Other1",
     "ALetter1Other1ALetter8Other21ALetter16Extend1ALetter3Extend1ALetter4Extend1ALetter23",
     "Extend5Other4Extend1Other19ALetter52Other12Extend2ALetter50Extend18Other10Numeric10Other6",
     "Extend18ALetter6Other3ALetter1Other1ALetter2Extend1Numeric10ALetter28Extend8Other2",
     "ALetter23Extend13Other12ALetter29Other3Extend4ALetter47Extend14Other14ALetter1Numeric10",
     "Other11Extend1Other10Numeric10Other6ALetter41Extend14Other9ALetter3Extend1ALetter8Extend2",
     "Other2Numeric10Other33Extend3Other50Extend1Other1Extend3Other2Extend2Other5Extend2Other1",
     "Extend1Other30ALetter11Extend5Other2ALetter3Extend2Other10ALetter6Other2ALetter6Other2",
     "ALetter6Other9ALetter7Other1ALetter7Other1ALetter58Other6ALetter115Extend8Other1Extend2",
     "Other2Numeric10Other6ALetter11172Other12ALetter23Other4ALetter49Other8964ALetter7Other12",
     "ALetter5Other5Hebrew_Letter1Extend1Hebrew_Letter10Other1Hebrew_Letter13Other1",
     "Hebrew_Letter5Other1Hebrew_Letter1Other1Hebrew_Letter2Other1Hebrew_Letter2Other1",
     "Hebrew_Letter10ALetter98Other33ALetter363Other18ALetter64Other2ALetter54Other40ALetter12",
     "Other4Extend16MidNum1Other2MidLetter1MidNum1Other11Extend16Other3ExtendNumLet2Other24",
     "ExtendNumLet3MidNum1Other1MidNumLet1Other1MidNum1MidLetter1Other26ALetter5Other1ALetter135",
     "Other2Format1Other7MidNumLet1Other4MidNum1Other1MidNumLet1Other1Numeric10MidLetter1MidNum1",
     "Other5ALetter26Other4ExtendNumLet1Other1ALetter26Other11Katakana56Extend2ALetter31Other3",
     "ALetter6Other2ALetter6Other2ALetter6Other2ALetter3Other28Format3Other4ALetter12Other1",
     "ALetter26Other1ALetter19Other1ALetter2Other1ALetter15Other2ALetter14Other34ALetter123",
     "Other69ALetter53Other136Extend1Other130ALetter29Other3ALetter49Other15Extend1Other31",
     "ALetter32Other13ALetter30Other5ALetter38Extend5Other5ALetter30Other2ALetter36Other4",
     "ALetter8Other1ALetter5Other42ALetter158Other2Numeric10Other6ALetter36Other4ALetter36Other4",
     "ALetter40Other8ALetter52Other12ALetter11Other1ALetter15Other1ALetter7Other1ALetter2Other1",
     "ALetter11Other1ALetter15Other1ALetter7Other1ALetter2Other3ALetter52Other12ALetter311Other9",
     "ALetter22Other10ALetter8Other24ALetter6Other1ALetter42Other1ALetter9Other69ALetter6Other2",
     "ALetter1Other1ALetter44Other1ALetter2Other3ALetter1Other2ALetter23Other10ALetter23Other9",
     "ALetter31Other65ALetter19Other1ALetter2Other10ALetter22Other10ALetter26Other70ALetter56",
     "Other6ALetter2Other64ALetter1Extend3Other1Extend2Other5Extend4ALetter4Other1ALetter3Other1",
     "ALetter29Other2Extend3Other4Extend1Other32ALetter29Other3ALetter29Other35ALetter8Other1",
     "ALetter28Extend2Other25ALetter54Other10ALetter22Other10ALetter19Other13ALetter18Other110",
     "ALetter73Other55ALetter51Other13ALetter51Other13ALetter36Extend4Other8Numeric10Other6",
     "Numeric10ALetter28Other3Extend5Other1ALetter23Other250ALetter42Other1Extend2Other3ALetter2",
     "Other16ALetter3Other55Extend4ALetter29Other10ALetter1Other8ALetter22Extend11Other31",
     "ALetter18Extend4Other42ALetter21Other27ALetter23Other9Extend3ALetter53Extend15Other31",
     "Numeric10Extend1ALetter2Extend2ALetter1Other9Extend4ALetter45Extend11Other2Format1Other4",
     "Extend1Other10Format1Other2ALetter25Other7Numeric10Other6Extend3ALetter36Extend14Other1",
     "Numeric10Other4ALetter1Extend2ALetter1Other8ALetter35Extend1Other2ALetter1Other9Extend3",
     "ALetter48Extend14ALetter4Other4Extend4Other1Extend2Numeric10ALetter1Other1ALetter1Other35",
     "ALetter18Other1ALetter25Extend12Other6Extend1ALetter2Extend1Other62ALetter7Other1ALetter1",
     "Other1ALetter4Other1ALetter15Other1ALetter10Other7ALetter47Extend12Other5Numeric10Other6",
     "Extend4Other1ALetter8Other2ALetter2Other2ALetter22Other1ALetter7Other1ALetter2Other1",
     "ALetter5Other1Extend2ALetter1Extend7Other2Extend2Other2Extend3Other2ALetter1Other6Extend1",
     "Other5ALetter5Extend2Other2Extend7Other3Extend5Other11ALetter10Other1ALetter1Other2",
     "ALetter1Other1ALetter38Other1ALetter1Extend9Other1Extend1Other2Extend1Other1Extend4Other1",
     "Extend5ALetter1Extend1ALetter1Other13Extend2Other29ALetter53Extend18ALetter4Other5",
     "Numeric10Other4Extend1ALetter3Other30ALetter48Extend20ALetter2Other1ALetter1Other8",
     "Numeric10Other166ALetter47Extend7Other2Extend9Other23ALetter4Extend2Other34ALetter48",
     "Extend17Other3ALetter1Other11Numeric10Other38ALetter43Extend13ALetter1Other7Numeric10",
     "Other6Numeric20Other57Extend15Other4Numeric10Other198ALetter44Extend15Other101ALetter64",
     "Numeric10Other21ALetter8Other2ALetter1Other2ALetter8Other1ALetter2Other1ALetter24Extend6",
     "Other1Extend2Other2Extend4ALetter1Extend1ALetter1Extend2Other12Numeric10Other70ALetter8",
     "Other2ALetter39Extend7Other2Extend7ALetter1Other1ALetter1Extend1Other27ALetter1Extend10",
     "ALetter40Extend7ALetter1Extend4Other8Extend1Other8ALetter1Extend11ALetter46Extend16Other3",
     "ALetter1Other18ALetter73Other199ALetter33Other15Numeric10Other6ALetter9Other1ALetter37",
     "Extend8Other1Extend8ALetter1Other15Numeric10Other24ALetter30Other2Extend22Other1Extend14",
     "Other73ALetter7Other1ALetter2Other1ALetter38Extend6Other3Extend1Other1Extend2Other1Extend7",
     "ALetter1Extend1Other8Numeric10Other6ALetter6Other1ALetter2Other1ALetter32Extend5Other1",
     "Extend2Other1Extend5ALetter1Other7Numeric10Other310ALetter19Extend4Other9Extend2ALetter1",
     "Extend1ALetter13Other1ALetter34Extend7Other3Extend5Other13Numeric10Extend1Other85ALetter1",
     "Other79ALetter922Other102ALetter111Other17ALetter196Other2636ALetter97Other15ALetter1072",
     "Format16Extend1ALetter6Extend15Other10ALetter3995Other5ALetter583Other6841ALetter30",
     "Extend18Numeric10Other1734ALetter569Other7ALetter31Other1Numeric10Other6ALetter79Other1",
     "Numeric10Other6ALetter30Other2Extend5Other11ALetter48Extend7Other9ALetter4Other12Numeric10",
     "Other9ALetter21Other5ALetter19Other432ALetter45Other3Numeric10Other198ALetter64Other128",
     "ALetter75Other4Extend1ALetter1Extend55Other7Extend4ALetter13Other64ALetter2Other1ALetter1",
     "Extend1Other11Extend2Other16382Katakana4Other1Katakana7Other1Katakana2Other1Katakana1",
     "Other287Katakana3Other50Katakana1Other14Katakana4Other2712ALetter107Other5ALetter13Other3",
     "ALetter9Other7ALetter10Other3Extend2Other1Format4Other4172Numeric10Other518Extend46Other2",
     "Extend23Other542Extend5Other3Extend6Format8Extend8Other2Extend7Other30Extend4Other148",
     "Extend3Other443ALetter85Other1ALetter71Other1ALetter2Other2ALetter1Other2ALetter2Other2",
     "ALetter4Other1ALetter12Other1ALetter1Other1ALetter7Other1ALetter65Other1ALetter4Other2",
     "ALetter8Other1ALetter7Other1ALetter28Other1ALetter4Other1ALetter5Other1ALetter1Other3",
     "ALetter7Other1ALetter340Other2ALetter25Other1ALetter25Other1ALetter31Other1ALetter25Other1",
     "ALetter31Other1ALetter25Other1ALetter31Other1ALetter25Other1ALetter31Other1ALetter25Other1",
     "ALetter8Other2Numeric50Other512Extend55Other4Extend50Other8Extend1Other14Extend1Other22",
     "Extend5Other1Extend15Other1104ALetter31Other6ALetter6Other213Extend7Other1Extend17Other2",
     "Extend7Other1Extend2Other1Extend5Other5ALetter62Other33Extend1Other112ALetter45Other3",
     "Extend7ALetter7Other2Numeric10Other4ALetter1Other321ALetter30Extend1Other17ALetter44",
     "Extend4Numeric10Other470ALetter28Extend4Numeric10Other214ALetter30Extend2ALetter1Numeric10",
     "Other485ALetter7Other1ALetter4Other1ALetter2Other1ALetter15Other1ALetter197Other11Extend7",
     "Other41ALetter68Extend7ALetter1Other4Numeric10Other1190ALetter4Other1ALetter27Other1",
     "ALetter2Other1ALetter1Other2ALetter1Other1ALetter10Other1ALetter4Other1ALetter1Other1",
     "ALetter1Other6ALetter1Other4ALetter1Other1ALetter1Other1ALetter1Other1ALetter3Other1",
     "ALetter2Other1ALetter1Other2ALetter1Other1ALetter1Other1ALetter1Other1ALetter1Other1",
     "ALetter1Other1ALetter2Other1ALetter1Other2ALetter4Other1ALetter7Other1ALetter4Other1",
     "ALetter4Other1ALetter1Other1ALetter10Other1ALetter17Other5ALetter3Other1ALetter5Other1",
     "ALetter17Other628ALetter26Other6ALetter26Other6ALetter26Other92Regional_Indicator26",
     "Other507Extend5Other2032Numeric10Other787463Format1Other30Extend96Other128Extend240",
     "Other196112"]

/-- The names of the values of Sentence_Break, each abbreviation before the long name. -/
def sentenceBreakNames : String :=
  String.join
    ["AT ATerm CL Close CR CR EX Extend FO Format LE OLetter LF LF LO Lower NU Numeric SC ",
     "SContinue SE Sep SP Sp ST STerm UP Upper"]

/-- The property Sentence_Break. -/
def sentenceBreakRuns : String :=
  String.join
    ["Other9Sp1LF1Sp2CR1Other18Sp1STerm1Close1Other4Close3Other2SContinue2ATerm1Other1Numeric10",
     "SContinue1Other4STerm1Other1Upper26Close1Other1Close1Other3Lower26Close1Other1Close1Other7",
     "Sep1Other26Sp1Other9Lower1Close1Other1Format1Other7Lower1Other4Lower1Close1Other4Upper23",
     "Other1Upper7Lower24Other1Lower8Upper1Lower1Upper1Lower1Upper1Lower1Upper1Lower1Upper1",
     "Lower1Upper1Lower1Upper1Lower1Upper1Lower1Upper1Lower1Upper1Lower1Upper1Lower1Upper1Lower1",
     "Upper1Lower1Upper1Lower1Upper1Lower1Upper1Lower1Upper1Lower1Upper1Lower1Upper1Lower1Upper1",
     "Lower1Upper1Lower1Upper1Lower1Upper1Lower1Upper1Lower1Upper1Lower1Upper1Lower1Upper1Lower1",
     "Upper1Lower2Upper1Lower1Upper1Lower1Upper1Lower1Upper1Lower1Upper1Lower1Upper1Lower1Upper1",
     "Lower1Upper1Lower2Upper1Lower1Upper1Lower1Upper1Lower1Upper1Lower1Upper1Lower1Upper1Lower1",
     "Upper1Lower1Upper1Lower1Upper1Lower1Upper1Lower1Upper1Lower1Upper1Lower1Upper1Lower1Upper1",
     "Lower1Upper1Lower1Upper1Lower1Upper1Lower1Upper1Lower1Upper1Lower1Upper1Lower1Upper1Lower1",
     "Upper1Lower1Upper1Lower1Upper2Lower1Upper1Lower1Upper1Lower3Upper2Lower1Upper1Lower1Upper2",
     "Lower1Upper3Lower2Upper4Lower1Upper2Lower1Upper3Lower3Upper2Lower1Upper2Lower1Upper1Lower1",
     "Upper1Lower1Upper2Lower1Upper1Lower2Upper1Lower1Upper2Lower1Upper3Lower1Upper1Lower1Upper2",
     "Lower2OLetter1Upper1Lower3OLetter4Upper2Lower1Upper2Lower1Upper2Lower1Upper1Lower1Upper1",
     "Lower1Upper1Lower1Upper1Lower1Upper1Lower1Upper1Lower1Upper1Lower1Upper1Lower2Upper1Lower1",
     "Upper1Lower1Upper1Lower1Upper1Lower1Upper1Lower1Upper1Lower1Upper1Lower1Upper1Lower1Upper1",
     "Lower2Upper2Lower1Upper1Lower1Upper3Lower1Upper1Lower1Upper1Lower1Upper1Lower1Upper1Lower1",
     "Upper1Lower1Upper1Lower1Upper1Lower1Upper1Lower1Upper1Lower1Upper1Lower1Upper1Lower1Upper1",
     "Lower1Upper1Lower1Upper1Lower1Upper1Lower1Upper1Lower1Upper1Lower1Upper1Lower1Upper1Lower1",
     "Upper1Lower1Upper1Lower1Upper1Lower1Upper1Lower1Upper1Lower1Upper1Lower1Upper1Lower1Upper1",
     "Lower1Upper1Lower1Upper1Lower7Upper2Lower1Upper2Lower2Upper1Lower1Upper4Lower1Upper1Lower1",
     "Upper1Lower1Upper1Lower1Upper1Lower69OLetter1Lower36OLetter7Lower2Other4OLetter12Other14",
     "Lower5Other7OLetter1Other1OLetter1Other17Extend112Upper1Lower1Upper1Lower1OLetter1Other1",
     "Upper1Lower1Other2Lower4Other1Upper1Other6Upper1Other1Upper3Other1Upper1Other1Upper2Lower1",
     "Upper17Other1Upper9Lower35Upper1Lower2Upper3Lower3Upper1Lower1Upper1Lower1Upper1Lower1",
     "Upper1Lower1Upper1Lower1Upper1Lower1Upper1Lower1Upper1Lower1Upper1Lower1Upper1Lower1Upper1",
     "Lower1Upper1Lower5Upper1Lower1Other1Upper1Lower1Upper2Lower2Upper51Lower48Upper1Lower1",
     "Upper1Lower1Upper1Lower1Upper1Lower1Upper1Lower1Upper1Lower1Upper1Lower1Upper1Lower1Upper1",
     "Lower1Upper1Lower1Upper1Lower1Upper1Lower1Upper1Lower1Upper1Lower1Upper1Lower1Upper1Lower1",
     "Upper1Lower1Other1Extend7Upper1Lower1Upper1Lower1Upper1Lower1Upper1Lower1Upper1Lower1",
     "Upper1Lower1Upper1Lower1Upper1Lower1Upper1Lower1Upper1Lower1Upper1Lower1Upper1Lower1Upper1",
     "Lower1Upper1Lower1Upper1Lower1Upper1Lower1Upper1Lower1Upper1Lower1Upper1Lower1Upper1Lower1",
     "Upper1Lower1Upper1Lower1Upper1Lower1Upper1Lower1Upper1Lower1Upper1Lower1Upper1Lower1Upper2",
     "Lower1Upper1Lower1Upper1Lower1Upper1Lower1Upper1Lower1Upper1Lower1Upper1Lower2Upper1Lower1",
     "Upper1Lower1Upper1Lower1Upper1Lower1Upper1Lower1Upper1Lower1Upper1Lower1Upper1Lower1Upper1",
     "Lower1Upper1Lower1Upper1Lower1Upper1Lower1Upper1Lower1Upper1Lower1Upper1Lower1Upper1Lower1",
     "Upper1Lower1Upper1Lower1Upper1Lower1Upper1Lower1Upper1Lower1Upper1Lower1Upper1Lower1Upper1",
     "Lower1Upper1Lower1Upper1Lower1Upper1Lower1Upper1Lower1Upper1Lower1Upper1Lower1Upper1Lower1",
     "Upper1Lower1Upper1Lower1Upper1Lower1Upper1Lower1Upper1Lower1Upper1Lower1Upper1Lower1Upper1",
     "Lower1Upper1Lower1Upper1Lower1Upper1Lower1Upper1Lower1Upper1Lower1Upper1Lower1Upper1Lower1",
     "Upper1Lower1Upper1Lower1Other1Upper38Other2OLetter1Other3SContinue1Other2Lower41STerm1",
     "Other7Extend45Other1Extend1Other1Extend2Other1Extend2Other1Extend1Other8OLetter27Other4",
     "OLetter5Other12Format6Other6SContinue2Other2Extend11Other1Format1STerm3OLetter43Extend21",
     "Numeric10Other1Numeric2Other1OLetter2Extend1OLetter99STerm1OLetter1Extend7Format1Other1",
     "Extend6OLetter2Extend2Other1Extend4OLetter2Numeric10OLetter3Other2OLetter1STerm3Other12",
     "Format1OLetter1Extend1OLetter30Extend27Other2OLetter89Extend11OLetter1Other14Numeric10",
     "OLetter33Extend9OLetter2Other2SContinue1STerm1OLetter1Other2Extend1Other2OLetter22Extend4",
     "OLetter1Extend9OLetter1Extend3OLetter1Extend5Other9STerm1Other1STerm1Other3STerm2Other1",
     "OLetter25Extend3Other4OLetter11Other5OLetter24Other1OLetter6Other1Format2Other5Extend9",
     "OLetter42Extend24Format1Extend33OLetter54Extend3OLetter1Extend18OLetter1Extend7OLetter10",
     "Extend2STerm2Numeric10Other1OLetter16Extend3Other1OLetter8Other2OLetter2Other2OLetter22",
     "Other1OLetter7Other1OLetter1Other3OLetter4Other2Extend1OLetter1Extend7Other2Extend2Other2",
     "Extend3OLetter1Other8Extend1Other4OLetter2Other1OLetter3Extend2Other2Numeric10OLetter2",
     "Other10OLetter1Other1Extend1Other2Extend3Other1OLetter6Other4OLetter2Other2OLetter22Other1",
     "OLetter7Other1OLetter2Other1OLetter2Other1OLetter2Other2Extend1Other1Extend5Other4Extend2",
     "Other2Extend3Other3Extend1Other7OLetter4Other1OLetter1Other7Numeric10Extend2OLetter3",
     "Extend1Other11Extend3Other1OLetter9Other1OLetter3Other1OLetter22Other1OLetter7Other1",
     "OLetter2Other1OLetter5Other2Extend1OLetter1Extend8Other1Extend3Other1Extend3Other2OLetter1",
     "Other15OLetter2Extend2Other2Numeric10Other9OLetter1Extend6Other1Extend3Other1OLetter8",
     "Other2OLetter2Other2OLetter22Other1OLetter7Other1OLetter2Other1OLetter5Other2Extend1",
     "OLetter1Extend7Other2Extend2Other2Extend3Other7Extend3Other4OLetter2Other1OLetter3Extend2",
     "Other2Numeric10Other1OLetter1Other16Extend1OLetter1Other1OLetter6Other3OLetter3Other1",
     "OLetter4Other3OLetter2Other1OLetter1Other1OLetter2Other3OLetter2Other3OLetter3Other3",
     "OLetter12Other4Extend5Other3Extend3Other1Extend4Other2OLetter1Other6Extend1Other14",
     "Numeric10Other16Extend5OLetter8Other1OLetter3Other1OLetter23Other1OLetter16Other2Extend1",
     "OLetter1Extend7Other1Extend3Other1Extend4Other7Extend2Other1OLetter3Other2OLetter1Other2",
     "OLetter2Extend2Other2Numeric10Other16OLetter1Extend3Other1OLetter8Other1OLetter3Other1",
     "OLetter23Other1OLetter10Other1OLetter5Other2Extend1OLetter1Extend7Other1Extend3Other1",
     "Extend4Other7Extend2Other6OLetter2Other1OLetter2Extend2Other2Numeric10Other1OLetter2",
     "Extend1Other12Extend4OLetter9Other1OLetter3Other1OLetter41Extend2OLetter1Extend7Other1",
     "Extend3Other1Extend4OLetter1Other5OLetter3Extend1Other7OLetter3Extend2Other2Numeric10",
     "Other10OLetter6Other1Extend3Other1OLetter18Other3OLetter24Other1OLetter9Other1OLetter1",
     "Other2OLetter7Other3Extend1Other4Extend6Other1Extend1Other1Extend8Other6Numeric10Other2",
     "Extend2Other13OLetter48Extend1OLetter2Extend7Other5OLetter7Extend8Other1Numeric10Other39",
     "OLetter2Other1OLetter1Other1OLetter5Other1OLetter24Other1OLetter1Other1OLetter10Extend1",
     "OLetter2Extend9OLetter1Other2OLetter5Other1OLetter1Other1Extend7Other1Numeric10Other2",
     "OLetter4Other32OLetter1Other23Extend2Other6Numeric10Other11Extend1Other1Extend1Other1",
     "Extend1Close4Extend2OLetter8Other1OLetter36Other4Extend20Other1Extend2OLetter5Extend11",
     "Other1Extend36Other9Extend1Other57OLetter43Extend20OLetter1Numeric10STerm2Other4OLetter6",
     "Extend4OLetter4Extend3OLetter1Extend3OLetter2Extend7OLetter3Extend4OLetter13Extend12",
     "OLetter1Extend1Numeric10Extend4Other2Upper38Other1Upper1Other5Upper1Other2OLetter43Other1",
     "Lower1OLetter332Other1OLetter4Other2OLetter7Other1OLetter1Other1OLetter4Other2OLetter41",
     "Other1OLetter4Other2OLetter33Other1OLetter4Other2OLetter7Other1OLetter1Other1OLetter4",
     "Other2OLetter15Other1OLetter57Other1OLetter4Other2OLetter67Other2Extend3Other2STerm1Other4",
     "STerm2Other23OLetter16Other16Upper86Other2Lower6Other3OLetter620Other1STerm1OLetter17Sp1",
     "OLetter26Close2Other3OLetter75Other3OLetter11Other7OLetter18Extend4Other9OLetter19Extend3",
     "STerm2Other9OLetter18Extend2Other12OLetter13Other1OLetter3Other1Extend2Other12OLetter52",
     "Extend32Other3OLetter1Other4OLetter1Extend1Other2Numeric10Other24SContinue1STerm1Other4",
     "SContinue1STerm1Other1Extend3Format1Extend1Numeric10Other6OLetter89Other7OLetter5Extend2",
     "OLetter34Extend1OLetter1Other5OLetter70Other10OLetter31Other1Extend12Other4Extend12Other8",
     "STerm2Numeric10OLetter30Other2OLetter5Other11OLetter44Other4OLetter26Other6Numeric10",
     "Other38OLetter23Extend5Other4OLetter53Extend10Other1Extend29Other2Extend1Numeric10Other6",
     "Numeric10Other13OLetter1STerm4Other4Extend31Other49Extend5OLetter47Extend17OLetter8Other1",
     "STerm2Numeric10STerm2Other2STerm2Other11Extend9Other9STerm3Extend3OLetter30Extend13",
     "OLetter2Numeric10OLetter44Extend14Other12OLetter36Extend20Other3STerm2Other3Numeric10",
     "Other3OLetter3Numeric10OLetter36STerm2Lower9Upper1Lower1Other5OLetter43Other2OLetter3",
     "Other16Extend3Other1Extend21OLetter4Extend1OLetter6Extend1OLetter2Extend3OLetter1Other5",
     "Lower192Extend64Upper1Lower1Upper1Lower1Upper1Lower1Upper1Lower1Upper1Lower1Upper1Lower1",
     "Upper1Lower1Upper1Lower1Upper1Lower1Upper1Lower1Upper1Lower1Upper1Lower1Upper1Lower1Upper1",
     "Lower1Upper1Lower1Upper1Lower1Upper1Lower1Upper1Lower1Upper1Lower1Upper1Lower1Upper1Lower1",
     "Upper1Lower1Upper1Lower1Upper1Lower1Upper1Lower1Upper1Lower1Upper1Lower1Upper1Lower1Upper1",
     "Lower1Upper1Lower1Upper1Lower1Upper1Lower1Upper1Lower1Upper1Lower1Upper1Lower1Upper1Lower1",
     "Upper1Lower1Upper1Lower1Upper1Lower1Upper1Lower1Upper1Lower1Upper1Lower1Upper1Lower1Upper1",
     "Lower1Upper1Lower1Upper1Lower1Upper1Lower1Upper1Lower1Upper1Lower1Upper1Lower1Upper1Lower1",
     "Upper1Lower1Upper1Lower1Upper1Lower1Upper1Lower1Upper1Lower1Upper1Lower1Upper1Lower1Upper1",
     "Lower1Upper1Lower1Upper1Lower1Upper1Lower1Upper1Lower1Upper1Lower1Upper1Lower1Upper1Lower1",
     "Upper1Lower1Upper1Lower1Upper1Lower1Upper1Lower1Upper1Lower1Upper1Lower1Upper1Lower1Upper1",
     "Lower1Upper1Lower9Upper1Lower1Upper1Lower1Upper1Lower1Upper1Lower1Upper1Lower1Upper1Lower1",
     "Upper1Lower1Upper1Lower1Upper1Lower1Upper1Lower1Upper1Lower1Upper1Lower1Upper1Lower1Upper1",
     "Lower1Upper1Lower1Upper1Lower1Upper1Lower1Upper1Lower1Upper1Lower1Upper1Lower1Upper1Lower1",
     "Upper1Lower1Upper1Lower1Upper1Lower1Upper1Lower1Upper1Lower1Upper1Lower1Upper1Lower1Upper1",
     "Lower1Upper1Lower1Upper1Lower1Upper1Lower1Upper1Lower1Upper1Lower1Upper1Lower1Upper1Lower1",
     "Upper1Lower1Upper1Lower1Upper1Lower1Upper1Lower1Upper1Lower1Upper1Lower1Upper1Lower1Upper1",
     "Lower1Upper1Lower1Upper1Lower1Upper1Lower1Upper1Lower1Upper1Lower9Upper8Lower6Other2Upper6",
     "Other2Lower8Upper8Lower8Upper8Lower6Other2Upper6Other2Lower8Other1Upper1Other1Upper1Other1",
     "Upper1Other1Upper1Lower8Upper8Lower14Other2Lower8Upper8Lower8Upper8Lower8Upper8Lower5",
     "Other1Lower2Upper5Other1Lower1Other3Lower3Other1Lower2Upper5Other3Lower4Other2Lower2Upper4",
     "Other4Lower8Upper5Other5Lower3Other1Lower2Upper5Other3Sp11Format1Extend2Format2Other3",
     "SContinue2Other3Close8Other4ATerm1Other3Sep2Format5Sp1Other9Close2Other1STerm2Other7Close2",
     "STerm3Other21Sp1Format5Other1Format10Other1Lower1Other11Close2Lower1Other13Close2Other1",
     "Lower13Other51Extend33Other17Upper1Other4Upper1Other2Lower1Upper3Lower2Upper3Lower1Other1",
     "Upper1Other3Upper5Other6Upper1Other1Upper1Other1Upper1Other1Upper4Other1Lower1Upper4Lower1",
     "OLetter4Lower1Other2Lower2Upper2Other5Upper1Lower4Other4Lower1Other17Upper16Lower16",
     "OLetter3Upper1Lower1OLetter4Other383Close4Other29Close2Other395Upper26Lower26Other625",
     "Close6Other7Close14Other79Close2Other31Close10Other403Close22Other63Close4Other32Close2",
     "Other514Upper48Lower48Upper1Lower1Upper3Lower2Upper1Lower1Upper1Lower1Upper1Lower1Upper4",
     "Lower1Upper1Lower2Upper1Lower8Upper3Lower1Upper1Lower1Upper1Lower1Upper1Lower1Upper1Lower1",
     "Upper1Lower1Upper1Lower1Upper1Lower1Upper1Lower1Upper1Lower1Upper1Lower1Upper1Lower1Upper1",
     "Lower1Upper1Lower1Upper1Lower1Upper1Lower1Upper1Lower1Upper1Lower1Upper1Lower1Upper1Lower1",
     "Upper1Lower1Upper1Lower1Upper1Lower1Upper1Lower1Upper1Lower1Upper1Lower1Upper1Lower1Upper1",
     "Lower1Upper1Lower1Upper1Lower1Upper1Lower1Upper1Lower1Upper1Lower1Upper1Lower1Upper1Lower1",
     "Upper1Lower1Upper1Lower1Upper1Lower1Upper1Lower1Upper1Lower1Upper1Lower1Upper1Lower1Upper1",
     "Lower1Upper1Lower1Upper1Lower1Upper1Lower1Upper1Lower1Upper1Lower1Upper1Lower1Upper1Lower2",
     "Other6Upper1Lower1Upper1Lower1Extend3Upper1Lower1Other12Lower38Other1Lower1Other5Lower1",
     "Other2OLetter56Other7OLetter1Other15Extend1OLetter23Other9OLetter7Other1OLetter7Other1",
     "OLetter7Other1OLetter7Other1OLetter7Other1OLetter7Other1OLetter7Other1OLetter7Other1",
     "Extend32Close14Other14Close2Other2Close10Other4STerm1OLetter1Other12STerm1Other5Close1",
     "Other16STerm2Close8Other419Sp1SContinue1STerm1Other2OLetter3Close10Other2Close8Other1",
     "Close3Other1OLetter9Extend6Other1OLetter5Other2OLetter5Other4OLetter86Other2Extend2Other2",
     "OLetter3Other1OLetter90Other1OLetter4Other5OLetter43Other1OLetter94Other17OLetter32Other48",
     "OLetter16Other512OLetter6592Other64OLetter22157Other67OLetter46Other1STerm1OLetter269",
     "Other1STerm2OLetter16Numeric10OLetter2Other20Upper1Lower1Upper1Lower1Upper1Lower1Upper1",
     "Lower1Upper1Lower1Upper1Lower1Upper1Lower1Upper1Lower1Upper1Lower1Upper1Lower1Upper1Lower1",
     "Upper1Lower1Upper1Lower1Upper1Lower1Upper1Lower1Upper1Lower1Upper1Lower1Upper1Lower1Upper1",
     "Lower1Upper1Lower1Upper1Lower1Upper1Lower1Upper1Lower1OLetter1Extend4Other1Extend10Other1",
     "OLetter1Upper1Lower1Upper1Lower1Upper1Lower1Upper1Lower1Upper1Lower1Upper1Lower1Upper1",
     "Lower1Upper1Lower1Upper1Lower1Upper1Lower1Upper1Lower1Upper1Lower1Upper1Lower1Upper1Lower3",
     "Extend2OLetter80Extend2Other1STerm1Other3STerm1Other31OLetter9Other2Upper1Lower1Upper1",
     "Lower1Upper1Lower1Upper1Lower1Upper1Lower1Upper1Lower1Upper1Lower3Upper1Lower1Upper1Lower1",
     "Upper1Lower1Upper1Lower1Upper1Lower1Upper1Lower1Upper1Lower1Upper1Lower1Upper1Lower1Upper1",
     "Lower1Upper1Lower1Upper1Lower1Upper1Lower1Upper1Lower1Upper1Lower1Upper1Lower1Upper1Lower1",
     "Upper1Lower1Upper1Lower1Upper1Lower1Upper1Lower1Upper1Lower1Upper1Lower1Upper1Lower1Upper1",
     "Lower1Upper1Lower1Upper1Lower1Upper1Lower1Upper1Lower1Upper1Lower1Upper1Lower10Upper1",
     "Lower1Upper1Lower1Upper2Lower1Upper1Lower1Upper1Lower1Upper1Lower1Upper1Lower1OLetter1",
     "Other2Upper1Lower1Upper1Lower1OLetter1Upper1Lower1Upper1Lower3Upper1Lower1Upper1Lower1",
     "Upper1Lower1Upper1Lower1Upper1Lower1Upper1Lower1Upper1Lower1Upper1Lower1Upper1Lower1Upper1",
     "Lower1Upper5Lower1Upper5Lower1Upper1Lower1Upper1Lower1Upper1Lower1Upper1Lower1Upper1Lower1",
     "Upper1Lower1Upper1Lower1Upper4Lower1Upper1Lower1Upper2Lower1Other2Upper1Lower1Other1Lower1",
     "Other1Lower1Upper1Lower1Upper1Lower1Upper1Lower1Upper1Other21Lower3Upper1Lower1OLetter1",
     "Lower3OLetter7Extend1OLetter3Extend1OLetter4Extend1OLetter23Extend5Other4Extend1Other19",
     "OLetter52Other2STerm2Other8Extend2OLetter50Extend18Other8STerm2Numeric10Other6Extend18",
     "OLetter6Other3OLetter1Other1OLetter2Extend1Numeric10OLetter28Extend8Other1STerm1OLetter23",
     "Extend13Other12OLetter29Other3Extend4OLetter47Extend14Other7STerm2Other5OLetter1Numeric10",
     "Other6OLetter5Extend1OLetter10Numeric10OLetter5Other1OLetter41Extend14Other9OLetter3",
     "Extend1OLetter8Extend2Other2Numeric10Other3STerm3OLetter23Other3OLetter1Extend3OLetter50",
     "Extend1OLetter1Extend3OLetter2Extend2OLetter5Extend2OLetter1Extend1OLetter1Other24OLetter3",
     "Other2OLetter11Extend5STerm2OLetter3Extend2Other10OLetter6Other2OLetter6Other2OLetter6",
     "Other9OLetter7Other1OLetter7Other1Lower43Other1Lower14Other6Lower80OLetter35Extend8STerm1",
     "Extend2Other2Numeric10Other6OLetter11172Other12OLetter23Other4OLetter49Other8452OLetter366",
     "Other2OLetter106Other38Lower7Other12Lower5Other5OLetter1Extend1OLetter10Other1OLetter13",
     "Other1OLetter5Other1OLetter1Other1OLetter2Other1OLetter2Other1OLetter108Other33OLetter363",
     "Close2Other16OLetter64Other2OLetter54Other40OLetter12Other4Extend16SContinue2Other1",
     "SContinue1Other3Close2Other7Extend16Other1SContinue2Other2Close16Other2Close2Other7",
     "SContinue2ATerm1Other2SContinue1STerm2SContinue1Close6Other4SContinue1Other12OLetter5",
     "Other1OLetter135Other2Format1Other1STerm1Other6Close2Other2SContinue2ATerm1Other1Numeric10",
     "SContinue1Other4STerm1Other1Upper26Close1Other1Close1Other3Lower26Close1Other1Close1Other1",
     "Close2STerm1Close2SContinue1Other1OLetter56Extend2OLetter31Other3OLetter6Other2OLetter6",
     "Other2OLetter6Other2OLetter3Other28Format3Other4OLetter12Other1OLetter26Other1OLetter19",
     "Other1OLetter2Other1OLetter15Other2OLetter14Other34OLetter123Other69OLetter53Other136",
     "Extend1Other130OLetter29Other3OLetter49Other15Extend1Other31OLetter32Other13OLetter30",
     "Other5OLetter38Extend5Other5OLetter30Other2OLetter36Other4OLetter8Other1OLetter5Other42",
     "Upper40Lower40OLetter78Other2Numeric10Other6Upper36Other4Lower36Other4OLetter40Other8",
     "OLetter52Other12Upper11Other1Upper15Other1Upper7Other1Upper2Other1Lower11Other1Lower15",
     "Other1Lower7Other1Lower2Other3OLetter52Other12OLetter311Other9OLetter22Other10OLetter8",
     "Other24Lower1OLetter2Lower3Other1Lower42Other1Lower9Other69OLetter6Other2OLetter1Other1",
     "OLetter44Other1OLetter2Other3OLetter1Other2OLetter23Other10OLetter23Other9OLetter31Other65",
     "OLetter19Other1OLetter2Other10OLetter22Other10OLetter26Other70OLetter56Other6OLetter2",
     "Other64OLetter1Extend3Other1Extend2Other5Extend4OLetter4Other1OLetter3Other1OLetter29",
     "Other2Extend3Other4Extend1Other22STerm2Other8OLetter29Other3OLetter29Other35OLetter8Other1",
     "OLetter28Extend2Other25OLetter54Other10OLetter22Other10OLetter19Other13OLetter18Other110",
     "OLetter73Other55Upper51Other13Lower51Other13OLetter36Extend4Other8Numeric10Other6Numeric10",
     "OLetter6Upper22Other3Extend5Other1OLetter1Lower22Other250OLetter42Other1Extend2Other3",
     "OLetter2Other16OLetter3Other55Extend4OLetter29Other10OLetter1Other8OLetter22Extend11Other4",
     "STerm5Other22OLetter18Extend4STerm4Other38OLetter21Other27OLetter23Other9Extend3OLetter53",
     "Extend15STerm2Other29Numeric10Extend1OLetter2Extend2OLetter1Other9Extend4OLetter45Extend11",
     "Other2Format1STerm4Extend1Other10Format1Other2OLetter25Other7Numeric10Other6Extend3",
     "OLetter36Extend14Other1Numeric10Other1STerm3OLetter1Extend2OLetter1Other8OLetter35Extend1",
     "Other2OLetter1Other9Extend3OLetter48Extend14OLetter4STerm2Other2Extend4STerm1Extend2",
     "Numeric10OLetter1Other1OLetter1Other1STerm2Other32OLetter18Other1OLetter25Extend12STerm2",
     "Other1STerm2Other1Extend1OLetter2Extend1Other62OLetter7Other1OLetter1Other1OLetter4Other1",
     "OLetter15Other1OLetter10STerm1Other6OLetter47Extend12Other5Numeric10Other6Extend4Other1",
     "OLetter8Other2OLetter2Other2OLetter22Other1OLetter7Other1OLetter2Other1OLetter5Other1",
     "Extend2OLetter1Extend7Other2Extend2Other2Extend3Other2OLetter1Other6Extend1Other5OLetter5",
     "Extend2Other2Extend7Other3Extend5Other11OLetter10Other1OLetter1Other2OLetter1Other1",
     "OLetter38Other1OLetter1Extend9Other1Extend1Other2Extend1Other1Extend4Other1Extend5OLetter1",
     "Extend1OLetter1STerm2Other11Extend2Other29OLetter53Extend18OLetter4STerm2Other3Numeric10",
     "Other4Extend1OLetter3Other30OLetter48Extend20OLetter2Other1OLetter1Other8Numeric10Other166",
     "OLetter47Extend7Other2Extend9Other1STerm2Other5STerm15OLetter4Extend2Other34OLetter48",
     "Extend17STerm2Other1OLetter1Other11Numeric10Other38OLetter43Extend13OLetter1Other7",
     "Numeric10Other6Numeric20Other28OLetter27Other2Extend15Other4Numeric10Other2STerm3Other1",
     "OLetter7Other185OLetter44Extend15Other101Upper32Lower32Numeric10Other21OLetter8Other2",
     "OLetter1Other2OLetter8Other1OLetter2Other1OLetter24Extend6Other1Extend2Other2Extend4",
     "OLetter1Extend1OLetter1Extend2STerm1Other1STerm1Other9Numeric10Other70OLetter8Other2",
     "OLetter39Extend7Other2Extend7OLetter1Other1OLetter1Extend1Other27OLetter1Extend10OLetter40",
     "Extend7OLetter1Extend4Other3STerm2Other3Extend1Other8OLetter1Extend11OLetter46Extend16",
     "Other1STerm2OLetter1Other18OLetter73Other199OLetter33Other15Numeric10Other6OLetter9Other1",
     "OLetter37Extend8Other1Extend8OLetter1STerm2Other13Numeric10Other24OLetter30Other2Extend22",
     "Other1Extend14Other73OLetter7Other1OLetter2Other1OLetter38Extend6Other3Extend1Other1",
     "Extend2Other1Extend7OLetter1Extend1Other8Numeric10Other6OLetter6Other1OLetter2Other1",
     "OLetter32Extend5Other1Extend2Other1Extend5OLetter1Other7Numeric10Other310OLetter19Extend4",
     "STerm2Other7Extend2OLetter1Extend1OLetter13Other1OLetter34Extend7Other3Extend5STerm2",
     "Other11Numeric10Extend1Other85OLetter1Other79OLetter922Other102OLetter111Other17OLetter196",
     "Other2636OLetter97Other15OLetter1072Format16Extend1OLetter6Extend15Other10OLetter3995",
     "Other5OLetter583Other6841OLetter30Extend18Numeric10Other1734OLetter569Other7OLetter31",
     "Other1Numeric10Other4STerm2OLetter79Other1Numeric10Other6OLetter30Other2Extend5STerm1",
     "Other10OLetter48Extend7STerm2Other7OLetter4STerm1Other11Numeric10Other9OLetter21Other5",
     "OLetter19Other432OLetter45Other1STerm2Numeric10Other198Upper32Lower32Other24STerm1Other103",
     "OLetter75Other4Extend1OLetter1Extend55Other7Extend4OLetter13Other64OLetter2Other1OLetter1",
     "Extend1Other11Extend2Other14OLetter6136Other8OLetter1238Other41OLetter10Other8935OLetter4",
     "Other1OLetter7Other1OLetter2Other1OLetter291Other15OLetter1Other29OLetter3Other2OLetter1",
     "Other14OLetter4Other8OLetter396Other2308OLetter107Other5OLetter13Other3OLetter9Other7",
     "OLetter10Other3Extend2STerm1Format4Other4172Numeric10Other518Extend46Other2Extend23",
     "Other542Extend5Other3Extend6Format8Extend8Other2Extend7Other30Extend4Other148Extend3",
     "Other443Upper26Lower26Upper26Lower7Other1Lower18Upper26Lower26Upper1Other1Upper2Other2",
     "Upper1Other2Upper2Other2Upper4Other1Upper8Lower4Other1Lower1Other1Lower7Other1Lower11",
     "Upper26Lower26Upper2Other1Upper4Other2Upper8Other1Upper7Other1Lower26Upper2Other1Upper4",
     "Other1Upper5Other1Upper1Other3Upper7Other1Lower26Upper26Lower26Upper26Lower26Upper26",
     "Lower26Upper26Lower26Upper26Lower26Upper26Lower28Other2Upper25Other1Lower25Other1Lower6",
     "Upper25Other1Lower25Other1Lower6Upper25Other1Lower25Other1Lower6Upper25Other1Lower25Other1",
     "Lower6Upper25Other1Lower25Other1Lower6Upper1Lower1Other2Numeric50Other512Extend55Other4",
     "Extend50Other8Extend1Other14Extend1Other3STerm1Other18Extend5Other1Extend15Other1104",
     "Lower10OLetter1Lower20Other6Lower6Other213Extend7Other1Extend17Other2Extend7Other1Extend2",
     "Other1Extend5Other5Lower62Other33Extend1Other112OLetter45Other3Extend7OLetter7Other2",
     "Numeric10Other4OLetter1Other321OLetter30Extend1Other17OLetter44Extend4Numeric10Other470",
     "OLetter28Extend4Numeric10Other214OLetter30Extend2OLetter1Numeric10Other485OLetter7Other1",
     "OLetter4Other1OLetter2Other1OLetter15Other1OLetter197Other11Extend7Other41Upper34Lower34",
     "Extend7OLetter1Other4Numeric10Other1190OLetter4Other1OLetter27Other1OLetter2Other1OLetter1",
     "Other2OLetter1Other1OLetter10Other1OLetter4Other1OLetter1Other1OLetter1Other6OLetter1",
     "Other4OLetter1Other1OLetter1Other1OLetter1Other1OLetter3Other1OLetter2Other1OLetter1Other2",
     "OLetter1Other1OLetter1Other1OLetter1Other1OLetter1Other1OLetter1Other1OLetter2Other1",
     "OLetter1Other2OLetter4Other1OLetter7Other1OLetter4Other1OLetter4Other1OLetter1Other1",
     "OLetter10Other1OLetter17Other5OLetter3Other1OLetter5Other1OLetter17Other628Upper26Other6",
     "Upper26Other6Upper26Other1260Close3Other1399Numeric10Other1030OLetter42720Other32",
     "OLetter4154Other6OLetter222Other2OLetter5762Other14OLetter7473Other15OLetter622Other2466",
     "OLetter542Other1506OLetter4939Other5OLetter4192Other711761Format1Other30Extend96Other128",
     "Extend240Other196112"]

end DevConsole.Unicode
