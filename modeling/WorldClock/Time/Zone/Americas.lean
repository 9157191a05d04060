import WorldClock.Time.History
/-!
# Histories of the Americas

The offsets of 9 places from the first recorded local mean time to the year 2099. A transition
that repeats the offset before it stands for a change of the name of the time only.
-/

namespace WorldClock.History

/-- The offsets of New York. -/
def newYork : History where
  initial := -17762
  chapters := [
    .once (-2717650800) (-18000),
    .yearly 1918 3 [⟨3, .sunday, 25, 25200, -14400⟩, ⟨10, .sunday, 25, 21600, -18000⟩],
    .yearly 1921 21 [⟨4, .sunday, 24, 25200, -14400⟩, ⟨9, .sunday, 24, 21600, -18000⟩],
    .once (-880218000) (-14400), .once (-769395600) (-14400), .once (-765396000) (-18000),
    .yearly 1946 9 [⟨4, .sunday, 24, 25200, -14400⟩, ⟨9, .sunday, 24, 21600, -18000⟩],
    .yearly 1955 19 [⟨4, .sunday, 24, 25200, -14400⟩, ⟨10, .sunday, 25, 21600, -18000⟩],
    .once 126687600 (-14400), .once 152085600 (-18000), .once 162370800 (-14400),
    .once 183535200 (-18000),
    .yearly 1976 11 [⟨4, .sunday, 24, 25200, -14400⟩, ⟨10, .sunday, 25, 21600, -18000⟩],
    .yearly 1987 20 [⟨4, .sunday, 1, 25200, -14400⟩, ⟨10, .sunday, 25, 21600, -18000⟩],
    .yearly 2007 93 [⟨3, .sunday, 8, 25200, -14400⟩, ⟨11, .sunday, 1, 21600, -18000⟩]]

/-- The offsets of Chicago. -/
def chicago : History where
  initial := -21036
  chapters := [
    .once (-2717647200) (-21600), .once (-1633276800) (-18000), .once (-1615136400) (-21600),
    .once (-1601827200) (-18000), .once (-1583686800) (-21600), .once (-1563724800) (-18000),
    .once (-1551632400) (-21600), .once (-1538928000) (-18000), .once (-1520182800) (-21600),
    .yearly 1922 14 [⟨4, .sunday, 24, 28800, -18000⟩, ⟨9, .sunday, 24, 25200, -21600⟩],
    .once (-1067788800) (-18000), .once (-1045414800) (-21600),
    .yearly 1937 5 [⟨4, .sunday, 24, 28800, -18000⟩, ⟨9, .sunday, 23, 25200, -21600⟩],
    .once (-880214400) (-18000), .once (-769395600) (-18000), .once (-765392400) (-21600),
    .yearly 1946 9 [⟨4, .sunday, 24, 28800, -18000⟩, ⟨9, .sunday, 24, 25200, -21600⟩],
    .yearly 1955 19 [⟨4, .sunday, 24, 28800, -18000⟩, ⟨10, .sunday, 25, 25200, -21600⟩],
    .once 126691200 (-18000), .once 152089200 (-21600), .once 162374400 (-18000),
    .once 183538800 (-21600),
    .yearly 1976 11 [⟨4, .sunday, 24, 28800, -18000⟩, ⟨10, .sunday, 25, 25200, -21600⟩],
    .yearly 1987 20 [⟨4, .sunday, 1, 28800, -18000⟩, ⟨10, .sunday, 25, 25200, -21600⟩],
    .yearly 2007 93 [⟨3, .sunday, 8, 28800, -18000⟩, ⟨11, .sunday, 1, 25200, -21600⟩]]

/-- The offsets of Denver. -/
def denver : History where
  initial := -25196
  chapters := [
    .once (-2717643600) (-25200),
    .yearly 1918 3 [⟨3, .sunday, 25, 32400, -21600⟩, ⟨10, .sunday, 25, 28800, -25200⟩],
    .once (-1538924400) (-21600), .once (-1534089600) (-25200), .once (-880210800) (-21600),
    .once (-769395600) (-21600), .once (-765388800) (-25200),
    .yearly 1965 9 [⟨4, .sunday, 24, 32400, -21600⟩, ⟨10, .sunday, 25, 28800, -25200⟩],
    .once 126694800 (-21600), .once 152092800 (-25200), .once 162378000 (-21600),
    .once 183542400 (-25200),
    .yearly 1976 11 [⟨4, .sunday, 24, 32400, -21600⟩, ⟨10, .sunday, 25, 28800, -25200⟩],
    .yearly 1987 20 [⟨4, .sunday, 1, 32400, -21600⟩, ⟨10, .sunday, 25, 28800, -25200⟩],
    .yearly 2007 93 [⟨3, .sunday, 8, 32400, -21600⟩, ⟨11, .sunday, 1, 28800, -25200⟩]]

/-- The offsets of Los Angeles. -/
def losAngeles : History where
  initial := -28378
  chapters := [
    .once (-2717640000) (-28800), .once (-1633269600) (-25200), .once (-1615129200) (-28800),
    .once (-1601820000) (-25200), .once (-1583679600) (-28800), .once (-880207200) (-25200),
    .once (-769395600) (-25200), .once (-765385200) (-28800), .once (-687967140) (-25200),
    .once (-662655600) (-28800),
    .yearly 1950 12 [⟨4, .sunday, 24, 32400, -25200⟩, ⟨9, .sunday, 24, 32400, -28800⟩],
    .yearly 1962 5 [⟨4, .sunday, 23, 32400, -25200⟩, ⟨10, .sunday, 25, 32400, -28800⟩],
    .yearly 1967 7 [⟨4, .sunday, 24, 36000, -25200⟩, ⟨10, .sunday, 25, 32400, -28800⟩],
    .once 126698400 (-25200), .once 152096400 (-28800), .once 162381600 (-25200),
    .once 183546000 (-28800),
    .yearly 1976 11 [⟨4, .sunday, 24, 36000, -25200⟩, ⟨10, .sunday, 25, 32400, -28800⟩],
    .yearly 1987 20 [⟨4, .sunday, 1, 36000, -25200⟩, ⟨10, .sunday, 25, 32400, -28800⟩],
    .yearly 2007 93 [⟨3, .sunday, 8, 36000, -25200⟩, ⟨11, .sunday, 1, 32400, -28800⟩]]

/-- The offsets of Juneau. -/
def juneau : History where
  initial := 54139
  chapters := [
    .once (-3225223727) (-32261), .once (-2188954939) (-28800), .once (-880207200) (-25200),
    .once (-769395600) (-25200), .once (-765385200) (-28800),
    .yearly 1969 5 [⟨4, .sunday, 24, 36000, -25200⟩, ⟨10, .sunday, 25, 32400, -28800⟩],
    .once 126698400 (-25200), .once 152096400 (-28800), .once 162381600 (-25200),
    .once 183546000 (-28800),
    .yearly 1976 4 [⟨4, .sunday, 24, 36000, -25200⟩, ⟨10, .sunday, 25, 32400, -28800⟩],
    .once 325677600 (-28800), .once 341402400 (-28800), .once 357127200 (-25200),
    .once 372848400 (-28800), .once 388576800 (-25200), .once 404902800 (-28800),
    .once 420026400 (-25200), .once 436352400 (-32400), .once 439030800 (-32400),
    .yearly 1984 3 [⟨4, .sunday, 23, 39600, -28800⟩, ⟨10, .sunday, 22, 36000, -32400⟩],
    .yearly 1987 20 [⟨4, .sunday, 1, 39600, -28800⟩, ⟨10, .sunday, 25, 36000, -32400⟩],
    .yearly 2007 93 [⟨3, .sunday, 8, 39600, -28800⟩, ⟨11, .sunday, 1, 36000, -32400⟩]]

/-- The offsets of St. John's. -/
def stJohns : History where
  initial := -12652
  chapters := [
    .once (-2713897748) (-12652), .once (-1664130548) (-9052), .once (-1650137348) (-12652),
    .once (-1632076148) (-9052), .once (-1615145348) (-12652), .once (-1598650148) (-9052),
    .once (-1590100148) (-12652), .once (-1567286948) (-9052), .once (-1551565748) (-12652),
    .yearly 1921 5 [⟨5, .monday, 2, 9052, -9052⟩, ⟨10, .monday, 25, 5452, -12652⟩],
    .once (-1377984548) (-9052), .once (-1362263348) (-12652),
    .yearly 1927 8 [⟨5, .monday, 2, 9052, -9052⟩, ⟨10, .monday, 25, 5452, -12652⟩],
    .once (-1096921748) (-12600), .once (-1093728600) (-9000), .once (-1078612200) (-12600),
    .yearly 1936 6 [⟨5, .monday, 9, 12600, -9000⟩, ⟨10, .monday, 1, 9000, -12600⟩],
    .once (-872368200) (-9000), .once (-769395600) (-9000), .once (-765401400) (-12600),
    .yearly 1946 5 [⟨5, .sunday, 8, 19800, -9000⟩, ⟨10, .sunday, 2, 16200, -12600⟩],
    .yearly 1951 9 [⟨4, .sunday, 23, 19800, -9000⟩, ⟨9, .sunday, 24, 16200, -12600⟩],
    .yearly 1960 27 [⟨4, .sunday, 24, 19800, -9000⟩, ⟨10, .sunday, 25, 16200, -12600⟩],
    .once 544591860 (-9000), .once 562127460 (-12600), .once 576041460 (-5400),
    .once 594178260 (-12600),
    .yearly 1989 18 [⟨4, .sunday, 1, 12660, -9000⟩, ⟨10, .sunday, 25, 9060, -12600⟩],
    .yearly 2007 4 [⟨3, .sunday, 8, 12660, -9000⟩, ⟨11, .sunday, 1, 9060, -12600⟩],
    .once 1299987060 (-9000), .once 1320553800 (-12600),
    .yearly 2012 88 [⟨3, .sunday, 8, 19800, -9000⟩, ⟨11, .sunday, 1, 16200, -12600⟩]]

/-- The offsets of Panama. -/
def panama : History where
  initial := -19088
  chapters := [
    .once (-2524502512) (-19176), .once (-1946918424) (-18000)]

/-- The offsets of Caracas. -/
def caracas : History where
  initial := -16064
  chapters := [
    .once (-2524505536) (-16060), .once (-1826739140) (-16200), .once (-157750200) (-14400),
    .once 1197183600 (-16200), .once 1462086000 (-14400)]

/-- The offsets of São Paulo. -/
def saoPaulo : History where
  initial := -11188
  chapters := [
    .once (-1767214412) (-10800), .once (-1206957600) (-7200), .once (-1191362400) (-10800),
    .once (-1175374800) (-7200), .once (-1159826400) (-10800), .once (-633819600) (-7200),
    .once (-622069200) (-10800), .once (-602283600) (-7200), .once (-591832800) (-10800),
    .once (-570747600) (-7200), .once (-560210400) (-10800), .once (-539125200) (-7200),
    .once (-531352800) (-10800), .once (-195426000) (-7200), .once (-184197600) (-10800),
    .once (-155163600) (-7200), .once (-150069600) (-10800), .once (-128898000) (-7200),
    .once (-121125600) (-10800), .once (-99954000) (-7200), .once (-89589600) (-10800),
    .once (-68418000) (-7200), .once (-57967200) (-10800), .once 499748400 (-7200),
    .once 511236000 (-10800), .once 530593200 (-7200), .once 540266400 (-10800),
    .once 562129200 (-7200), .once 571197600 (-10800), .once 592974000 (-7200),
    .once 602042400 (-10800), .once 624423600 (-7200), .once 634701600 (-10800),
    .once 656478000 (-7200), .once 666756000 (-10800), .once 687927600 (-7200),
    .once 697600800 (-10800), .once 719982000 (-7200), .once 728445600 (-10800),
    .once 750826800 (-7200), .once 761709600 (-10800), .once 782276400 (-7200),
    .once 793159200 (-10800), .once 813726000 (-7200), .once 824004000 (-10800),
    .once 844570800 (-7200), .once 856058400 (-10800), .once 876106800 (-7200),
    .once 888717600 (-10800), .once 908074800 (-7200), .once 919562400 (-10800),
    .once 938919600 (-7200), .once 951616800 (-10800), .once 970974000 (-7200),
    .once 982461600 (-10800), .once 1003028400 (-7200), .once 1013911200 (-10800),
    .once 1036292400 (-7200), .once 1045360800 (-10800), .once 1066532400 (-7200),
    .once 1076810400 (-10800), .once 1099364400 (-7200), .once 1108864800 (-10800),
    .once 1129431600 (-7200), .once 1140314400 (-10800), .once 1162695600 (-7200),
    .once 1172368800 (-10800), .once 1192330800 (-7200),
    .yearly 2008 4 [⟨2, .sunday, 15, 7200, -10800⟩, ⟨10, .sunday, 13, 10800, -7200⟩],
    .once 1330221600 (-10800), .once 1350788400 (-7200),
    .yearly 2013 5 [⟨2, .sunday, 16, 7200, -10800⟩, ⟨10, .sunday, 14, 10800, -7200⟩],
    .once 1518919200 (-10800), .once 1541300400 (-7200), .once 1550368800 (-10800)]

end WorldClock.History
