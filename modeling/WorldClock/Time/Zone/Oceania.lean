import WorldClock.Time.History
/-!
# Histories of Oceania and Antarctica

The offsets of 7 places from the first recorded local mean time to the year 2099. A transition
that repeats the offset before it stands for a change of the name of the time only.
-/

namespace WorldClock.History

/-- The offsets of Sydney. -/
def sydney : History where
  initial := 36292
  chapters := [
    .once (-2364113092) 36000, .once (-1672560000) 39600, .once (-1665388800) 36000,
    .once (-883641600) 39600, .once (-876124800) 36000, .once (-860400000) 39600,
    .once (-844675200) 36000, .once (-828345600) 39600, .once (-813225600) 36000,
    .once 57686400 39600, .once 67968000 36000, .once 89136000 39600,
    .yearly 1973 8 [⟨3, .saturday, 1, 57600, 36000⟩, ⟨10, .saturday, 24, 57600, 39600⟩],
    .once 352224000 36000, .once 372787200 39600, .once 386697600 36000, .once 404841600 39600,
    .yearly 1983 3 [⟨3, .saturday, 1, 57600, 36000⟩, ⟨10, .saturday, 23, 57600, 39600⟩],
    .once 511286400 36000, .once 530035200 39600,
    .yearly 1987 3 [⟨3, .saturday, 13, 57600, 36000⟩, ⟨10, .saturday, 23, 57600, 39600⟩],
    .once 636480000 36000, .once 657043200 39600, .once 667929600 36000, .once 688492800 39600,
    .once 699379200 36000, .once 719942400 39600,
    .yearly 1993 3 [⟨3, .saturday, 1, 57600, 36000⟩, ⟨10, .saturday, 24, 57600, 39600⟩],
    .yearly 1996 4 [⟨3, .saturday, 24, 57600, 36000⟩, ⟨10, .saturday, 24, 57600, 39600⟩],
    .once 954000000 36000, .once 967305600 39600,
    .yearly 2001 5 [⟨3, .saturday, 24, 57600, 36000⟩, ⟨10, .saturday, 24, 57600, 39600⟩],
    .once 1143907200 36000, .once 1162051200 39600, .once 1174752000 36000,
    .once 1193500800 39600,
    .yearly 2008 4 [⟨4, .saturday, 1, 57600, 36000⟩, ⟨10, .saturday, 1, 57600, 39600⟩],
    .once 1333209600 36000, .once 1349539200 39600,
    .yearly 2013 4 [⟨4, .saturday, 1, 57600, 36000⟩, ⟨10, .saturday, 1, 57600, 39600⟩],
    .once 1491062400 36000, .once 1506787200 39600, .once 1522512000 36000,
    .once 1538841600 39600,
    .yearly 2019 4 [⟨4, .saturday, 1, 57600, 36000⟩, ⟨10, .saturday, 1, 57600, 39600⟩],
    .once 1680364800 36000, .once 1696089600 39600,
    .yearly 2024 4 [⟨4, .saturday, 1, 57600, 36000⟩, ⟨10, .saturday, 1, 57600, 39600⟩],
    .once 1838217600 36000, .once 1853942400 39600, .once 1869667200 36000,
    .once 1885996800 39600,
    .yearly 2030 4 [⟨4, .saturday, 1, 57600, 36000⟩, ⟨10, .saturday, 1, 57600, 39600⟩],
    .once 2027520000 36000, .once 2043244800 39600, .once 2058969600 36000,
    .once 2075299200 39600,
    .yearly 2036 4 [⟨4, .saturday, 1, 57600, 36000⟩, ⟨10, .saturday, 1, 57600, 39600⟩],
    .once 2216822400 36000, .once 2233152000 39600,
    .yearly 2041 4 [⟨4, .saturday, 1, 57600, 36000⟩, ⟨10, .saturday, 1, 57600, 39600⟩],
    .once 2374675200 36000, .once 2390400000 39600, .once 2406124800 36000,
    .once 2422454400 39600,
    .yearly 2047 4 [⟨4, .saturday, 1, 57600, 36000⟩, ⟨10, .saturday, 1, 57600, 39600⟩],
    .once 2563977600 36000, .once 2579702400 39600,
    .yearly 2052 4 [⟨4, .saturday, 1, 57600, 36000⟩, ⟨10, .saturday, 1, 57600, 39600⟩],
    .once 2721830400 36000, .once 2737555200 39600, .once 2753280000 36000,
    .once 2769609600 39600,
    .yearly 2058 4 [⟨4, .saturday, 1, 57600, 36000⟩, ⟨10, .saturday, 1, 57600, 39600⟩],
    .once 2911132800 36000, .once 2926857600 39600, .once 2942582400 36000,
    .once 2958912000 39600,
    .yearly 2064 4 [⟨4, .saturday, 1, 57600, 36000⟩, ⟨10, .saturday, 1, 57600, 39600⟩],
    .once 3100435200 36000, .once 3116764800 39600,
    .yearly 2069 4 [⟨4, .saturday, 1, 57600, 36000⟩, ⟨10, .saturday, 1, 57600, 39600⟩],
    .once 3258288000 36000, .once 3274012800 39600, .once 3289737600 36000,
    .once 3306067200 39600,
    .yearly 2075 4 [⟨4, .saturday, 1, 57600, 36000⟩, ⟨10, .saturday, 1, 57600, 39600⟩],
    .once 3447590400 36000, .once 3463315200 39600,
    .yearly 2080 4 [⟨4, .saturday, 1, 57600, 36000⟩, ⟨10, .saturday, 1, 57600, 39600⟩],
    .once 3605443200 36000, .once 3621168000 39600, .once 3636892800 36000,
    .once 3653222400 39600,
    .yearly 2086 4 [⟨4, .saturday, 1, 57600, 36000⟩, ⟨10, .saturday, 1, 57600, 39600⟩],
    .once 3794745600 36000, .once 3810470400 39600, .once 3826195200 36000,
    .once 3842524800 39600,
    .yearly 2092 4 [⟨4, .saturday, 1, 57600, 36000⟩, ⟨10, .saturday, 1, 57600, 39600⟩],
    .once 3984048000 36000, .once 4000377600 39600,
    .yearly 2097 3 [⟨4, .saturday, 1, 57600, 36000⟩, ⟨10, .saturday, 1, 57600, 39600⟩]]

/-- The offsets of Lord Howe Island. -/
def lordHowe : History where
  initial := 38180
  chapters := [
    .once (-2364114980) 36000, .once 352216800 37800, .once 372785400 41400,
    .yearly 1982 3 [⟨3, .saturday, 1, 52200, 37800⟩, ⟨10, .saturday, 24, 55800, 41400⟩],
    .once 478621800 37800, .once 499188600 39600, .once 511282800 37800, .once 530033400 39600,
    .yearly 1987 3 [⟨3, .saturday, 13, 54000, 37800⟩, ⟨10, .saturday, 23, 55800, 39600⟩],
    .once 636476400 37800, .once 657041400 39600, .once 667926000 37800, .once 688491000 39600,
    .once 699375600 37800, .once 719940600 39600,
    .yearly 1993 3 [⟨3, .saturday, 1, 54000, 37800⟩, ⟨10, .saturday, 24, 55800, 39600⟩],
    .yearly 1996 4 [⟨3, .saturday, 24, 54000, 37800⟩, ⟨10, .saturday, 24, 55800, 39600⟩],
    .once 953996400 37800, .once 967303800 39600,
    .yearly 2001 5 [⟨3, .saturday, 24, 54000, 37800⟩, ⟨10, .saturday, 24, 55800, 39600⟩],
    .once 1143903600 37800, .once 1162049400 39600, .once 1174748400 37800,
    .once 1193499000 39600,
    .yearly 2008 4 [⟨4, .saturday, 1, 54000, 37800⟩, ⟨10, .saturday, 1, 55800, 39600⟩],
    .once 1333206000 37800, .once 1349537400 39600,
    .yearly 2013 4 [⟨4, .saturday, 1, 54000, 37800⟩, ⟨10, .saturday, 1, 55800, 39600⟩],
    .once 1491058800 37800, .once 1506785400 39600, .once 1522508400 37800,
    .once 1538839800 39600,
    .yearly 2019 4 [⟨4, .saturday, 1, 54000, 37800⟩, ⟨10, .saturday, 1, 55800, 39600⟩],
    .once 1680361200 37800, .once 1696087800 39600,
    .yearly 2024 4 [⟨4, .saturday, 1, 54000, 37800⟩, ⟨10, .saturday, 1, 55800, 39600⟩],
    .once 1838214000 37800, .once 1853940600 39600, .once 1869663600 37800,
    .once 1885995000 39600,
    .yearly 2030 4 [⟨4, .saturday, 1, 54000, 37800⟩, ⟨10, .saturday, 1, 55800, 39600⟩],
    .once 2027516400 37800, .once 2043243000 39600, .once 2058966000 37800,
    .once 2075297400 39600,
    .yearly 2036 4 [⟨4, .saturday, 1, 54000, 37800⟩, ⟨10, .saturday, 1, 55800, 39600⟩],
    .once 2216818800 37800, .once 2233150200 39600,
    .yearly 2041 4 [⟨4, .saturday, 1, 54000, 37800⟩, ⟨10, .saturday, 1, 55800, 39600⟩],
    .once 2374671600 37800, .once 2390398200 39600, .once 2406121200 37800,
    .once 2422452600 39600,
    .yearly 2047 4 [⟨4, .saturday, 1, 54000, 37800⟩, ⟨10, .saturday, 1, 55800, 39600⟩],
    .once 2563974000 37800, .once 2579700600 39600,
    .yearly 2052 4 [⟨4, .saturday, 1, 54000, 37800⟩, ⟨10, .saturday, 1, 55800, 39600⟩],
    .once 2721826800 37800, .once 2737553400 39600, .once 2753276400 37800,
    .once 2769607800 39600,
    .yearly 2058 4 [⟨4, .saturday, 1, 54000, 37800⟩, ⟨10, .saturday, 1, 55800, 39600⟩],
    .once 2911129200 37800, .once 2926855800 39600, .once 2942578800 37800,
    .once 2958910200 39600,
    .yearly 2064 4 [⟨4, .saturday, 1, 54000, 37800⟩, ⟨10, .saturday, 1, 55800, 39600⟩],
    .once 3100431600 37800, .once 3116763000 39600,
    .yearly 2069 4 [⟨4, .saturday, 1, 54000, 37800⟩, ⟨10, .saturday, 1, 55800, 39600⟩],
    .once 3258284400 37800, .once 3274011000 39600, .once 3289734000 37800,
    .once 3306065400 39600,
    .yearly 2075 4 [⟨4, .saturday, 1, 54000, 37800⟩, ⟨10, .saturday, 1, 55800, 39600⟩],
    .once 3447586800 37800, .once 3463313400 39600,
    .yearly 2080 4 [⟨4, .saturday, 1, 54000, 37800⟩, ⟨10, .saturday, 1, 55800, 39600⟩],
    .once 3605439600 37800, .once 3621166200 39600, .once 3636889200 37800,
    .once 3653220600 39600,
    .yearly 2086 4 [⟨4, .saturday, 1, 54000, 37800⟩, ⟨10, .saturday, 1, 55800, 39600⟩],
    .once 3794742000 37800, .once 3810468600 39600, .once 3826191600 37800,
    .once 3842523000 39600,
    .yearly 2092 4 [⟨4, .saturday, 1, 54000, 37800⟩, ⟨10, .saturday, 1, 55800, 39600⟩],
    .once 3984044400 37800, .once 4000375800 39600,
    .yearly 2097 3 [⟨4, .saturday, 1, 54000, 37800⟩, ⟨10, .saturday, 1, 55800, 39600⟩]]

/-- The offsets of the Chatham Islands. -/
def chatham : History where
  initial := 44028
  chapters := [
    .once (-3192437628) 44100, .once (-757426500) 45900, .once 152632800 49500,
    .once 162309600 45900, .once 183477600 49500,
    .yearly 1976 5 [⟨3, .saturday, 1, 50400, 45900⟩, ⟨10, .saturday, 24, 50400, 49500⟩],
    .once 352216800 45900, .once 372780000 49500,
    .yearly 1982 5 [⟨3, .saturday, 1, 50400, 45900⟩, ⟨10, .saturday, 24, 50400, 49500⟩],
    .once 541519200 45900, .once 562082400 49500, .once 573573600 45900, .once 594136800 49500,
    .once 605023200 45900, .once 623772000 49500,
    .yearly 1990 5 [⟨3, .saturday, 14, 50400, 45900⟩, ⟨10, .saturday, 1, 50400, 49500⟩],
    .once 795535200 45900, .once 812469600 49500,
    .yearly 1996 4 [⟨3, .saturday, 14, 50400, 45900⟩, ⟨10, .saturday, 1, 50400, 49500⟩],
    .once 953388000 45900, .once 970322400 49500,
    .yearly 2001 5 [⟨3, .saturday, 14, 50400, 45900⟩, ⟨10, .saturday, 1, 50400, 49500⟩],
    .once 1142690400 45900, .once 1159624800 49500, .once 1174140000 45900,
    .once 1191074400 49500,
    .yearly 2008 4 [⟨4, .saturday, 1, 50400, 45900⟩, ⟨9, .saturday, 21, 50400, 49500⟩],
    .once 1333202400 45900, .once 1348927200 49500,
    .yearly 2013 5 [⟨4, .saturday, 1, 50400, 45900⟩, ⟨9, .saturday, 22, 50400, 49500⟩],
    .once 1522504800 45900, .once 1538229600 49500,
    .yearly 2019 10 [⟨4, .saturday, 1, 50400, 45900⟩, ⟨9, .saturday, 22, 50400, 49500⟩],
    .once 1869660000 45900, .once 1885384800 49500,
    .yearly 2030 5 [⟨4, .saturday, 1, 50400, 45900⟩, ⟨9, .saturday, 22, 50400, 49500⟩],
    .once 2058962400 45900, .once 2074687200 49500,
    .yearly 2036 4 [⟨4, .saturday, 1, 50400, 45900⟩, ⟨9, .saturday, 21, 50400, 49500⟩],
    .once 2216815200 45900, .once 2232540000 49500,
    .yearly 2041 5 [⟨4, .saturday, 1, 50400, 45900⟩, ⟨9, .saturday, 22, 50400, 49500⟩],
    .once 2406117600 45900, .once 2421842400 49500,
    .yearly 2047 10 [⟨4, .saturday, 1, 50400, 45900⟩, ⟨9, .saturday, 22, 50400, 49500⟩],
    .once 2753272800 45900, .once 2768997600 49500,
    .yearly 2058 5 [⟨4, .saturday, 1, 50400, 45900⟩, ⟨9, .saturday, 22, 50400, 49500⟩],
    .once 2942575200 45900, .once 2958300000 49500,
    .yearly 2064 4 [⟨4, .saturday, 1, 50400, 45900⟩, ⟨9, .saturday, 21, 50400, 49500⟩],
    .once 3100428000 45900, .once 3116152800 49500,
    .yearly 2069 5 [⟨4, .saturday, 1, 50400, 45900⟩, ⟨9, .saturday, 22, 50400, 49500⟩],
    .once 3289730400 45900, .once 3305455200 49500,
    .yearly 2075 10 [⟨4, .saturday, 1, 50400, 45900⟩, ⟨9, .saturday, 22, 50400, 49500⟩],
    .once 3636885600 45900, .once 3652610400 49500,
    .yearly 2086 5 [⟨4, .saturday, 1, 50400, 45900⟩, ⟨9, .saturday, 22, 50400, 49500⟩],
    .once 3826188000 45900, .once 3841912800 49500,
    .yearly 2092 4 [⟨4, .saturday, 1, 50400, 45900⟩, ⟨9, .saturday, 21, 50400, 49500⟩],
    .once 3984040800 45900, .once 3999765600 49500,
    .yearly 2097 3 [⟨4, .saturday, 1, 50400, 45900⟩, ⟨9, .saturday, 22, 50400, 49500⟩]]

/-- The offsets of Apia. -/
def apia : History where
  initial := 45184
  chapters := [
    .once (-2445424384) (-41216), .once (-1861878784) (-41400), .once (-631110600) (-39600),
    .once 1285498800 (-36000), .once 1301752800 (-39600), .once 1316872800 (-36000),
    .once 1325239200 50400, .once 1333202400 46800, .once 1348927200 50400,
    .yearly 2013 5 [⟨4, .saturday, 1, 50400, 46800⟩, ⟨9, .saturday, 22, 50400, 50400⟩],
    .once 1522504800 46800, .once 1538229600 50400, .once 1554559200 46800,
    .once 1569679200 50400, .once 1586008800 46800, .once 1601128800 50400,
    .once 1617458400 46800]

/-- The offsets of Kiritimati. -/
def kiritimati : History where
  initial := -37760
  chapters := [
    .once (-2177415040) (-38400), .once 307622400 (-36000), .once 788868000 50400]

/-- The offsets of Kwajalein. -/
def kwajalein : History where
  initial := 40160
  chapters := [
    .once (-2177492960) 39600, .once (-1041418800) 36000, .once (-907408800) 32400,
    .once (-817462800) 39600, .once (-7988400) (-43200), .once 745934400 43200]

/-- The offsets of the Troll station in Antarctica. -/
def troll : History where
  initial := 0
  chapters := [
    .once 1108166400 0, .once 1111885200 7200, .once 1130634000 0,
    .yearly 2006 94 [⟨3, .sunday, 25, 3600, 7200⟩, ⟨10, .sunday, 25, 3600, 0⟩]]

end WorldClock.History
