import WorldClock.Time.History
/-!
# Histories of Africa

The offsets of 3 places from the first recorded local mean time to the year 2099. A transition
that repeats the offset before it stands for a change of the name of the time only.
-/

namespace WorldClock.History

/-- The offsets of Casablanca. -/
def casablanca : History where
  initial := -1820
  chapters := [
    .once (-1773012580) 0, .once (-956361600) 3600, .once (-950490000) 0,
    .once (-942019200) 3600, .once (-761187600) 0, .once (-617241600) 3600, .once (-605149200) 0,
    .once (-81432000) 3600, .once (-71110800) 0, .once 141264000 3600, .once 147222000 0,
    .once 199756800 3600, .once 207702000 0, .once 231292800 3600, .once 244249200 0,
    .once 265507200 3600, .once 271033200 0, .once 448243200 3600, .once 504918000 0,
    .once 1212278400 3600, .once 1220223600 0, .once 1243814400 3600, .once 1250809200 0,
    .once 1272758400 3600, .once 1281222000 0, .once 1301788800 3600, .once 1312066800 0,
    .once 1335664800 3600, .once 1342749600 0, .once 1345428000 3600, .once 1348970400 0,
    .once 1367114400 3600, .once 1373162400 0, .once 1376100000 3600, .once 1382839200 0,
    .once 1396144800 3600, .once 1403920800 0, .once 1406944800 3600, .once 1414288800 0,
    .once 1427594400 3600, .once 1434247200 0, .once 1437271200 3600, .once 1445738400 0,
    .once 1459044000 3600, .once 1465092000 0, .once 1468116000 3600, .once 1477792800 0,
    .once 1490493600 3600, .once 1495332000 0, .once 1498960800 3600, .once 1509242400 0,
    .once 1521943200 3600, .once 1526176800 0, .once 1529200800 3600, .once 1540692000 3600,
    .once 1557021600 0, .once 1560045600 3600, .once 1587261600 0, .once 1590890400 3600,
    .once 1618106400 0, .once 1621130400 3600, .once 1648346400 0, .once 1651975200 3600,
    .once 1679191200 0, .once 1682215200 3600, .once 1710036000 0, .once 1713060000 3600,
    .once 1740276000 0, .once 1743904800 3600, .once 1771120800 0, .once 1774144800 3600,
    .once 1801965600 0, .once 1804989600 3600, .once 1832205600 0, .once 1835834400 3600,
    .once 1863050400 0, .once 1866074400 3600, .once 1893290400 0, .once 1896919200 3600,
    .once 1924135200 0, .once 1927159200 3600, .once 1954980000 0, .once 1958004000 3600,
    .once 1985220000 0, .once 1988848800 3600, .once 2016064800 0, .once 2019088800 3600,
    .once 2046304800 0, .once 2049933600 3600, .once 2077149600 0, .once 2080778400 3600,
    .once 2107994400 0, .once 2111018400 3600, .once 2138234400 0, .once 2141863200 3600,
    .once 2169079200 0, .once 2172103200 3600, .once 2199924000 0, .once 2202948000 3600,
    .once 2230164000 0, .once 2233792800 3600, .once 2261008800 0, .once 2264032800 3600,
    .once 2291248800 0, .once 2294877600 3600, .once 2322093600 0, .once 2325722400 3600,
    .once 2352938400 0, .once 2355962400 3600, .once 2383178400 0, .once 2386807200 3600,
    .once 2414023200 0, .once 2417047200 3600, .once 2444868000 0, .once 2447892000 3600,
    .once 2475108000 0, .once 2478736800 3600, .once 2505952800 0, .once 2508976800 3600,
    .once 2536192800 0, .once 2539821600 3600, .once 2567037600 0, .once 2570666400 3600,
    .once 2597882400 0, .once 2600906400 3600, .once 2628122400 0, .once 2631751200 3600,
    .once 2658967200 0, .once 2661991200 3600, .once 2689812000 0, .once 2692836000 3600,
    .once 2720052000 0, .once 2723680800 3600, .once 2750896800 0, .once 2753920800 3600,
    .once 2781136800 0, .once 2784765600 3600, .once 2811981600 0, .once 2815610400 3600,
    .once 2842826400 0, .once 2845850400 3600, .once 2873066400 0, .once 2876695200 3600,
    .once 2903911200 0, .once 2906935200 3600, .once 2934756000 0, .once 2937780000 3600,
    .once 2964996000 0, .once 2968624800 3600, .once 2995840800 0, .once 2998864800 3600,
    .once 3026080800 0, .once 3029709600 3600, .once 3056925600 0, .once 3060554400 3600,
    .once 3087770400 0, .once 3090794400 3600, .once 3118010400 0, .once 3121639200 3600,
    .once 3148855200 0, .once 3151879200 3600, .once 3179700000 0, .once 3182724000 3600,
    .once 3209940000 0, .once 3213568800 3600, .once 3240784800 0, .once 3243808800 3600,
    .once 3271024800 0, .once 3274653600 3600, .once 3301869600 0, .once 3305498400 3600,
    .once 3332714400 0, .once 3335738400 3600, .once 3362954400 0, .once 3366583200 3600,
    .once 3393799200 0, .once 3396823200 3600, .once 3424644000 0, .once 3427668000 3600,
    .once 3454884000 0, .once 3458512800 3600, .once 3485728800 0, .once 3488752800 3600,
    .once 3515968800 0, .once 3519597600 3600, .once 3546813600 0, .once 3549837600 3600,
    .once 3577658400 0, .once 3580682400 3600, .once 3607898400 0, .once 3611527200 3600,
    .once 3638743200 0, .once 3641767200 3600, .once 3669588000 0, .once 3672612000 3600,
    .once 3699828000 0, .once 3703456800 3600]

/-- The offsets of Monrovia. -/
def monrovia : History where
  initial := -2588
  chapters := [
    .once (-2776979812) (-2588), .once (-1604359012) (-2670), .once 63593070 0]

/-- The offsets of Cairo. -/
def cairo : History where
  initial := 7509
  chapters := [
    .once (-2185409109) 7200, .once (-929844000) 10800, .once (-923108400) 7200,
    .once (-906170400) 10800, .once (-892868400) 7200, .once (-875844000) 10800,
    .once (-857790000) 7200, .once (-844308000) 10800, .once (-825822000) 7200,
    .once (-812685600) 10800, .once (-794199600) 7200, .once (-779853600) 10800,
    .once (-762663600) 7200, .once (-399088800) 10800, .once (-386650800) 7200,
    .once (-368330400) 10800, .once (-355114800) 7200, .once (-336790800) 10800,
    .once (-323654400) 7200, .once (-305168400) 10800, .once (-292032000) 7200,
    .once (-273632400) 10800, .once (-260496000) 7200, .once (-242096400) 10800,
    .once (-228960000) 7200, .once (-210560400) 10800, .once (-197424000) 7200,
    .once (-178938000) 10800, .once (-165801600) 7200, .once (-147402000) 10800,
    .once (-134265600) 7200, .once (-115866000) 10800, .once (-102643200) 7200,
    .once (-84330000) 10800, .once (-71107200) 7200, .once (-52707600) 10800,
    .once (-39484800) 7200, .once (-21171600) 10800, .once (-7948800) 7200, .once 10364400 10800,
    .once 23587200 7200, .once 41900400 10800, .once 55123200 7200, .once 73522800 10800,
    .once 86745600 7200, .once 105058800 10800, .once 118281600 7200, .once 136594800 10800,
    .once 149817600 7200, .once 168130800 10800, .once 181353600 7200, .once 199753200 10800,
    .once 212976000 7200, .once 231289200 10800, .once 244512000 7200, .once 262825200 10800,
    .once 276048000 7200, .once 294361200 10800, .once 307584000 7200, .once 325983600 10800,
    .once 339206400 7200, .once 357519600 10800, .once 370742400 7200, .once 396399600 10800,
    .once 402278400 7200, .once 426812400 10800, .once 433814400 7200, .once 452214000 10800,
    .once 465436800 7200, .once 483750000 10800, .once 496972800 7200, .once 515286000 10800,
    .once 528508800 7200, .once 546822000 10800, .once 560044800 7200, .once 578444400 10800,
    .once 591667200 7200, .once 610412400 10800, .once 623203200 7200, .once 641516400 10800,
    .once 654739200 7200, .once 673052400 10800, .once 686275200 7200, .once 704674800 10800,
    .once 717897600 7200, .once 736210800 10800, .once 749433600 7200, .once 767746800 10800,
    .once 780969600 7200,
    .yearly 1995 11 [⟨4, .thursday, 23, 79200, 10800⟩, ⟨9, .thursday, 24, 75600, 7200⟩],
    .once 1146175200 10800, .once 1158872400 7200, .once 1177624800 10800, .once 1189112400 7200,
    .once 1209074400 10800, .once 1219957200 7200, .once 1240524000 10800, .once 1250802000 7200,
    .once 1272578400 10800, .once 1281474000 7200, .once 1284069600 10800, .once 1285880400 7200,
    .once 1400191200 10800, .once 1403816400 7200, .once 1406844000 10800, .once 1411678800 7200,
    .yearly 2023 77 [⟨4, .thursday, 23, 79200, 10800⟩, ⟨10, .thursday, 25, 75600, 7200⟩]]

end WorldClock.History
