import WorldClock.Time.History
/-!
# Histories of Europe

The offsets of 7 places from the first recorded local mean time to the year 2099. A transition
that repeats the offset before it stands for a change of the name of the time only.
-/

namespace WorldClock.History

/-- The offsets of London. -/
def london : History where
  initial := -75
  chapters := [
    .once (-3852662325) 0, .once (-1691964000) 3600, .once (-1680472800) 0,
    .once (-1664143200) 3600, .once (-1650146400) 0, .once (-1633903200) 3600,
    .once (-1617487200) 0, .once (-1601848800) 3600, .once (-1586037600) 0,
    .once (-1570399200) 3600, .once (-1552168800) 0, .once (-1538344800) 3600,
    .once (-1522533600) 0, .once (-1507500000) 3600, .once (-1490565600) 0,
    .once (-1473631200) 3600, .once (-1460930400) 0, .once (-1442786400) 3600,
    .once (-1428876000) 0, .once (-1410732000) 3600, .once (-1396216800) 0,
    .once (-1379282400) 3600, .once (-1364767200) 0, .once (-1348437600) 3600,
    .once (-1333317600) 0, .once (-1315778400) 3600, .once (-1301263200) 0,
    .once (-1284328800) 3600, .once (-1269813600) 0,
    .yearly 1930 3 [⟨4, .sunday, 13, 7200, 3600⟩, ⟨10, .sunday, 1, 7200, 0⟩],
    .once (-1159135200) 3600, .once (-1143410400) 0, .once (-1126476000) 3600,
    .once (-1111960800) 0,
    .yearly 1935 3 [⟨4, .sunday, 13, 7200, 3600⟩, ⟨10, .sunday, 1, 7200, 0⟩],
    .once (-1001282400) 3600, .once (-986162400) 0, .once (-969228000) 3600,
    .once (-950479200) 0, .once (-942012000) 3600, .once (-904518000) 7200,
    .once (-896050800) 3600, .once (-875487600) 7200, .once (-864601200) 3600,
    .once (-844038000) 7200, .once (-832546800) 3600, .once (-812588400) 7200,
    .once (-798073200) 3600, .once (-781052400) 7200, .once (-772066800) 3600,
    .once (-764805600) 0, .once (-748476000) 3600, .once (-733356000) 0, .once (-719445600) 3600,
    .once (-717030000) 7200, .once (-706748400) 3600, .once (-699487200) 0,
    .once (-687996000) 3600, .once (-668037600) 0, .once (-654732000) 3600, .once (-636588000) 0,
    .yearly 1950 3 [⟨4, .sunday, 14, 7200, 3600⟩, ⟨10, .sunday, 20, 7200, 0⟩],
    .once (-527119200) 3600, .once (-512604000) 0, .once (-496274400) 3600, .once (-481154400) 0,
    .once (-464220000) 3600, .once (-449704800) 0, .once (-432165600) 3600, .once (-417650400) 0,
    .yearly 1957 3 [⟨4, .sunday, 14, 7200, 3600⟩, ⟨10, .sunday, 1, 7200, 0⟩],
    .once (-306972000) 3600, .once (-291852000) 0,
    .yearly 1961 3 [⟨3, .sunday, 25, 7200, 3600⟩, ⟨10, .sunday, 23, 7200, 0⟩],
    .yearly 1964 4 [⟨3, .sunday, 16, 7200, 3600⟩, ⟨10, .sunday, 23, 7200, 0⟩],
    .once (-59004000) 3600, .once (-37242000) 3600, .once 57722400 0,
    .yearly 1972 9 [⟨3, .sunday, 15, 7200, 3600⟩, ⟨10, .sunday, 23, 7200, 0⟩],
    .yearly 1981 14 [⟨3, .sunday, 25, 3600, 3600⟩, ⟨10, .sunday, 23, 3600, 0⟩],
    .yearly 1995 4 [⟨3, .sunday, 25, 3600, 3600⟩, ⟨10, .sunday, 21, 3600, 0⟩],
    .yearly 1999 101 [⟨3, .sunday, 25, 3600, 3600⟩, ⟨10, .sunday, 25, 3600, 0⟩]]

/-- The offsets of Dublin. -/
def dublin : History where
  initial := -1521
  chapters := [
    .once (-2821649679) (-1521), .once (-1691962479) 2079, .once (-1680471279) 0,
    .once (-1664143200) 3600, .once (-1650146400) 0, .once (-1633903200) 3600,
    .once (-1617487200) 0, .once (-1601848800) 3600, .once (-1586037600) 0,
    .once (-1570399200) 3600, .once (-1552168800) 0, .once (-1538344800) 3600,
    .once (-1522533600) 0, .once (-1507500000) 3600, .once (-1490565600) 0,
    .once (-1473631200) 3600, .once (-1460930400) 0, .once (-1442786400) 3600,
    .once (-1428876000) 0, .once (-1410732000) 3600, .once (-1396216800) 0,
    .once (-1379282400) 3600, .once (-1364767200) 0, .once (-1348437600) 3600,
    .once (-1333317600) 0, .once (-1315778400) 3600, .once (-1301263200) 0,
    .once (-1284328800) 3600, .once (-1269813600) 0,
    .yearly 1930 3 [⟨4, .sunday, 13, 7200, 3600⟩, ⟨10, .sunday, 1, 7200, 0⟩],
    .once (-1159135200) 3600, .once (-1143410400) 0, .once (-1126476000) 3600,
    .once (-1111960800) 0,
    .yearly 1935 3 [⟨4, .sunday, 13, 7200, 3600⟩, ⟨10, .sunday, 1, 7200, 0⟩],
    .once (-1001282400) 3600, .once (-986162400) 0, .once (-969228000) 3600,
    .once (-950479200) 0, .once (-942012000) 3600, .once (-733356000) 0, .once (-719445600) 3600,
    .once (-699487200) 0, .once (-684972000) 3600, .once (-668037600) 0, .once (-654732000) 3600,
    .once (-636588000) 0,
    .yearly 1950 3 [⟨4, .sunday, 14, 7200, 3600⟩, ⟨10, .sunday, 20, 7200, 0⟩],
    .once (-527119200) 3600, .once (-512604000) 0, .once (-496274400) 3600, .once (-481154400) 0,
    .once (-464220000) 3600, .once (-449704800) 0, .once (-432165600) 3600, .once (-417650400) 0,
    .yearly 1957 3 [⟨4, .sunday, 14, 7200, 3600⟩, ⟨10, .sunday, 1, 7200, 0⟩],
    .once (-306972000) 3600, .once (-291852000) 0,
    .yearly 1961 3 [⟨3, .sunday, 25, 7200, 3600⟩, ⟨10, .sunday, 23, 7200, 0⟩],
    .yearly 1964 4 [⟨3, .sunday, 16, 7200, 3600⟩, ⟨10, .sunday, 23, 7200, 0⟩],
    .once (-59004000) 3600, .once (-37242000) 3600, .once 57722400 0,
    .yearly 1972 9 [⟨3, .sunday, 15, 7200, 3600⟩, ⟨10, .sunday, 23, 7200, 0⟩],
    .yearly 1981 14 [⟨3, .sunday, 25, 3600, 3600⟩, ⟨10, .sunday, 23, 3600, 0⟩],
    .yearly 1995 4 [⟨3, .sunday, 25, 3600, 3600⟩, ⟨10, .sunday, 21, 3600, 0⟩],
    .yearly 1999 101 [⟨3, .sunday, 25, 3600, 3600⟩, ⟨10, .sunday, 25, 3600, 0⟩]]

/-- The offsets of Paris. -/
def paris : History where
  initial := 561
  chapters := [
    .once (-2486592561) 561, .once (-1855958961) 0, .once (-1689814800) 3600,
    .once (-1680397200) 0, .once (-1665363600) 3600, .once (-1648342800) 0,
    .once (-1635123600) 3600, .once (-1616893200) 0, .once (-1604278800) 3600,
    .once (-1585443600) 0, .once (-1574038800) 3600, .once (-1552266000) 0,
    .once (-1539997200) 3600, .once (-1520557200) 0, .once (-1507510800) 3600,
    .once (-1490576400) 0, .once (-1470618000) 3600, .once (-1459126800) 0,
    .once (-1444006800) 3600, .once (-1427677200) 0, .once (-1411952400) 3600,
    .once (-1396227600) 0, .once (-1379293200) 3600, .once (-1364778000) 0,
    .once (-1348448400) 3600, .once (-1333328400) 0, .once (-1316394000) 3600,
    .once (-1301274000) 0, .once (-1284339600) 3600, .once (-1269824400) 0,
    .once (-1253494800) 3600, .once (-1238374800) 0, .once (-1221440400) 3600,
    .once (-1206925200) 0, .once (-1191200400) 3600, .once (-1175475600) 0,
    .once (-1160355600) 3600, .once (-1143421200) 0, .once (-1127696400) 3600,
    .once (-1111971600) 0, .once (-1096851600) 3600, .once (-1080522000) 0,
    .once (-1063587600) 3600, .once (-1049072400) 0, .once (-1033347600) 3600,
    .once (-1017622800) 0, .once (-1002502800) 3600, .once (-986173200) 0,
    .once (-969238800) 3600, .once (-950490000) 0, .once (-942012000) 3600,
    .once (-932436000) 7200, .once (-857257200) 3600, .once (-844556400) 7200,
    .once (-828226800) 3600, .once (-812502000) 7200, .once (-800071200) 7200,
    .once (-796266000) 3600, .once (-781052400) 7200, .once (-766623600) 3600,
    .once 196819200 7200, .once 212540400 3600, .once 228877200 7200, .once 243997200 3600,
    .once 260326800 7200, .once 276051600 3600, .once 291776400 7200, .once 307501200 3600,
    .once 323830800 7200, .once 338950800 3600,
    .yearly 1981 15 [⟨3, .sunday, 25, 3600, 7200⟩, ⟨9, .sunday, 24, 3600, 3600⟩],
    .yearly 1996 104 [⟨3, .sunday, 25, 3600, 7200⟩, ⟨10, .sunday, 25, 3600, 3600⟩]]

/-- The offsets of Brussels. -/
def brussels : History where
  initial := 1050
  chapters := [
    .once (-2840141850) 1050, .once (-2450995200) 0, .once (-1740355200) 3600,
    .once (-1693702800) 7200, .once (-1680483600) 3600, .once (-1663455600) 7200,
    .once (-1650150000) 3600, .once (-1632006000) 7200, .once (-1618700400) 3600,
    .once (-1613826000) 0, .once (-1604278800) 3600, .once (-1585530000) 0,
    .once (-1574038800) 3600, .once (-1552266000) 0, .once (-1539997200) 3600,
    .once (-1520557200) 0, .once (-1507510800) 3600, .once (-1490576400) 0,
    .once (-1473642000) 3600, .once (-1459126800) 0, .once (-1444006800) 3600,
    .once (-1427677200) 0, .once (-1411952400) 3600, .once (-1396227600) 0,
    .once (-1379293200) 3600, .once (-1364778000) 0, .once (-1348448400) 3600,
    .once (-1333328400) 0, .once (-1316394000) 3600, .once (-1301263200) 0,
    .once (-1284328800) 3600, .once (-1269813600) 0, .once (-1253484000) 3600,
    .once (-1238364000) 0, .once (-1221429600) 3600, .once (-1206914400) 0,
    .once (-1191189600) 3600, .once (-1175464800) 0, .once (-1160344800) 3600,
    .once (-1143410400) 0, .once (-1127685600) 3600, .once (-1111960800) 0,
    .once (-1096840800) 3600, .once (-1080511200) 0, .once (-1063576800) 3600,
    .once (-1049061600) 0, .once (-1033336800) 3600, .once (-1017612000) 0,
    .once (-1002492000) 3600, .once (-986162400) 0, .once (-969228000) 3600,
    .once (-950479200) 0, .once (-942012000) 3600, .once (-934668000) 7200,
    .once (-857257200) 3600, .once (-844556400) 7200, .once (-828226800) 3600,
    .once (-812502000) 7200, .once (-798073200) 3600, .once (-781052400) 7200,
    .once (-766623600) 3600, .once (-745455600) 7200, .once (-733273200) 3600,
    .once 228877200 7200, .once 243997200 3600, .once 260326800 7200, .once 276051600 3600,
    .once 291776400 7200, .once 307501200 3600, .once 323830800 7200, .once 338950800 3600,
    .yearly 1981 15 [⟨3, .sunday, 25, 3600, 7200⟩, ⟨9, .sunday, 24, 3600, 3600⟩],
    .yearly 1996 104 [⟨3, .sunday, 25, 3600, 7200⟩, ⟨10, .sunday, 25, 3600, 3600⟩]]

/-- The offsets of Berlin. -/
def berlin : History where
  initial := 3208
  chapters := [
    .once (-2422054408) 3600, .once (-1693706400) 7200, .once (-1680483600) 3600,
    .once (-1663455600) 7200, .once (-1650150000) 3600, .once (-1632006000) 7200,
    .once (-1618700400) 3600, .once (-938905200) 7200, .once (-857257200) 3600,
    .once (-844556400) 7200, .once (-828226800) 3600, .once (-812502000) 7200,
    .once (-796777200) 3600, .once (-781052400) 7200, .once (-776563200) 10800,
    .once (-765936000) 7200, .once (-761180400) 3600, .once (-748479600) 7200,
    .once (-733273200) 3600, .once (-717631200) 7200, .once (-714610800) 10800,
    .once (-710380800) 7200, .once (-701910000) 3600, .once (-684975600) 7200,
    .once (-670460400) 3600, .once (-654130800) 7200, .once (-639010800) 3600,
    .once 323830800 7200, .once 338950800 3600,
    .yearly 1981 15 [⟨3, .sunday, 25, 3600, 7200⟩, ⟨9, .sunday, 24, 3600, 3600⟩],
    .yearly 1996 104 [⟨3, .sunday, 25, 3600, 7200⟩, ⟨10, .sunday, 25, 3600, 3600⟩]]

/-- The offsets of Moscow. -/
def moscow : History where
  initial := 9017
  chapters := [
    .once (-2840149817) 9017, .once (-1688265017) 9079, .once (-1656819079) 12679,
    .once (-1641353479) 9079, .once (-1627965079) 16279, .once (-1618716679) 12679,
    .once (-1596429079) 16279, .once (-1593820800) 14400, .once (-1589860800) 10800,
    .once (-1542427200) 14400, .once (-1539493200) 18000, .once (-1525323600) 14400,
    .once (-1522728000) 10800, .once (-1491188400) 7200, .once (-1247536800) 10800,
    .once 354920400 14400, .once 370728000 10800, .once 386456400 14400, .once 402264000 10800,
    .once 417992400 14400, .once 433800000 10800, .once 449614800 14400, .once 465346800 10800,
    .yearly 1985 6 [⟨3, .saturday, 24, 82800, 14400⟩, ⟨9, .saturday, 23, 82800, 10800⟩],
    .once 670374000 10800, .once 686102400 7200, .once 695779200 10800, .once 701823600 14400,
    .once 717548400 10800,
    .yearly 1993 3 [⟨3, .saturday, 21, 82800, 14400⟩, ⟨9, .saturday, 19, 82800, 10800⟩],
    .yearly 1996 15 [⟨3, .saturday, 24, 82800, 14400⟩, ⟨10, .saturday, 24, 82800, 10800⟩],
    .once 1301180400 14400, .once 1414274400 10800]

/-- The offsets of Istanbul. -/
def istanbul : History where
  initial := 6952
  chapters := [
    .once (-2840147752) 7016, .once (-1869875816) 7200, .once (-1693706400) 10800,
    .once (-1680490800) 7200, .once (-1570413600) 10800, .once (-1552186800) 7200,
    .once (-1538359200) 10800, .once (-1522551600) 7200, .once (-1507514400) 10800,
    .once (-1490583600) 7200, .once (-1440208800) 10800, .once (-1428030000) 7200,
    .once (-1409709600) 10800, .once (-1396494000) 7200, .once (-931053600) 10800,
    .once (-922676400) 7200, .once (-917834400) 10800, .once (-892436400) 7200,
    .once (-875844000) 10800, .once (-764737200) 7200, .once (-744343200) 10800,
    .once (-733806000) 7200, .once (-716436000) 10800, .once (-701924400) 7200,
    .once (-684986400) 10800, .once (-670474800) 7200, .once (-654141600) 10800,
    .once (-639025200) 7200, .once (-622087200) 10800, .once (-606970800) 7200,
    .once (-590032800) 10800, .once (-575521200) 7200, .once (-235620000) 10800,
    .once (-194842800) 7200, .once (-177732000) 10800, .once (-165726000) 7200,
    .once 107910000 10800, .once 121215600 7200, .once 133920000 10800, .once 152665200 7200,
    .once 164678400 10800, .once 184114800 7200, .once 196214400 10800, .once 215564400 7200,
    .once 228873600 10800, .once 245804400 7200, .once 260323200 10800, .once 267915600 10800,
    .once 428454000 14400, .once 433893600 10800, .once 468111600 7200, .once 482799600 10800,
    .once 496710000 7200,
    .yearly 1986 8 [⟨3, .saturday, 24, 82800, 10800⟩, ⟨9, .saturday, 23, 82800, 7200⟩],
    .once 764118000 10800, .once 780447600 7200, .once 796172400 10800, .once 811897200 7200,
    .yearly 1996 11 [⟨3, .saturday, 24, 82800, 10800⟩, ⟨10, .saturday, 24, 82800, 7200⟩],
    .yearly 2007 4 [⟨3, .sunday, 24, 3600, 10800⟩, ⟨10, .sunday, 25, 3600, 7200⟩],
    .once 1301274000 10800, .once 1319936400 7200, .once 1332637200 10800, .once 1351386000 7200,
    .once 1364691600 10800, .once 1382835600 7200, .once 1396227600 10800, .once 1414285200 7200,
    .once 1427590800 10800, .once 1446944400 7200, .once 1459040400 10800,
    .once 1473195600 10800]

end WorldClock.History
