import WorldClock.Time.History
/-!
# Histories of Asia

The offsets of 8 places from the first recorded local mean time to the year 2099. A transition
that repeats the offset before it stands for a change of the name of the time only.
-/

namespace WorldClock.History

/-- The offsets of Dubai. -/
def dubai : History where
  initial := 13272
  chapters := [
    .once (-1577936472) 14400]

/-- The offsets of Tehran. -/
def tehran : History where
  initial := 12344
  chapters := [
    .once (-1704165944) 12344, .once (-1090466744) 12600, .once 227820600 16200,
    .once 246223800 14400, .once 259617600 18000, .once 271108800 14400, .once 279576000 12600,
    .once 296598600 16200, .once 306531000 12600, .once 322432200 16200, .once 338499000 12600,
    .once 673216200 16200, .once 685481400 12600, .once 701209800 16200, .once 717103800 12600,
    .once 732745800 16200, .once 748639800 12600, .once 764281800 16200, .once 780175800 12600,
    .once 795817800 16200, .once 811711800 12600, .once 827353800 16200, .once 843247800 12600,
    .once 858976200 16200, .once 874870200 12600, .once 890512200 16200, .once 906406200 12600,
    .once 922048200 16200, .once 937942200 12600, .once 953584200 16200, .once 969478200 12600,
    .once 985206600 16200, .once 1001100600 12600, .once 1016742600 16200,
    .once 1032636600 12600, .once 1048278600 16200, .once 1064172600 12600,
    .once 1079814600 16200, .once 1095708600 12600, .once 1111437000 16200,
    .once 1127331000 12600, .once 1206045000 16200, .once 1221939000 12600,
    .once 1237667400 16200, .once 1253561400 12600, .once 1269203400 16200,
    .once 1285097400 12600, .once 1300739400 16200, .once 1316633400 12600,
    .once 1332275400 16200, .once 1348169400 12600, .once 1363897800 16200,
    .once 1379791800 12600, .once 1395433800 16200, .once 1411327800 12600,
    .once 1426969800 16200, .once 1442863800 12600, .once 1458505800 16200,
    .once 1474399800 12600, .once 1490128200 16200, .once 1506022200 12600,
    .once 1521664200 16200, .once 1537558200 12600, .once 1553200200 16200,
    .once 1569094200 12600, .once 1584736200 16200, .once 1600630200 12600,
    .once 1616358600 16200, .once 1632252600 12600, .once 1647894600 16200,
    .once 1663788600 12600]

/-- The offsets of Kolkata. -/
def kolkata : History where
  initial := 21208
  chapters := [
    .once (-3645237208) 21200, .once (-3155694800) 19270, .once (-2019705670) 19800,
    .once (-891581400) 23400, .once (-872058600) 19800, .once (-862637400) 23400,
    .once (-764145000) 19800]

/-- The offsets of Kathmandu. -/
def kathmandu : History where
  initial := 20476
  chapters := [
    .once (-1577943676) 19800, .once 504901800 20700]

/-- The offsets of Shanghai. -/
def shanghai : History where
  initial := 29143
  chapters := [
    .once (-2177481943) 28800, .once (-1600675200) 32400, .once (-1585904400) 28800,
    .once (-933667200) 32400, .once (-922093200) 28800, .once (-908870400) 32400,
    .once (-888829200) 28800, .once (-881049600) 32400, .once (-767869200) 28800,
    .once (-745833600) 32400, .once (-733827600) 28800, .once (-716889600) 32400,
    .once (-699613200) 28800, .once (-683884800) 32400, .once (-670669200) 28800,
    .once (-652348800) 32400, .once (-650019600) 28800, .once 515527200 32400,
    .once 527014800 28800,
    .yearly 1987 5 [⟨4, .saturday, 10, 64800, 32400⟩, ⟨9, .saturday, 10, 61200, 28800⟩]]

/-- The offsets of Manila. -/
def manila : History where
  initial := -57368
  chapters := [
    .once (-3944621032) 29032, .once (-2219083200) 28800, .once (-1046678400) 32400,
    .once (-1040115600) 28800, .once (-885024000) 32400, .once (-880016400) 32400,
    .once (-783594000) 32400, .once (-760093200) 28800, .once (-496224000) 32400,
    .once (-491562000) 28800, .once 228326400 32400, .once 243702000 28800,
    .once 643219200 32400, .once 649177200 28800]

/-- The offsets of Pyongyang. -/
def pyongyang : History where
  initial := 30180
  chapters := [
    .once (-1948782180) 30600, .once (-1830414600) 32400, .once (-768646800) 32400,
    .once 1439564400 30600, .once 1525446000 32400]

/-- The offsets of Tokyo. -/
def tokyo : History where
  initial := 33539
  chapters := [
    .once (-2587712400) 32400, .once (-683802000) 36000, .once (-672310800) 32400,
    .once (-654771600) 36000, .once (-640861200) 32400, .once (-620298000) 36000,
    .once (-609411600) 32400, .once (-588848400) 36000, .once (-577962000) 32400]

end WorldClock.History
