import WorldClock.Time.Zone.Africa
import WorldClock.Time.Zone.Americas
import WorldClock.Time.Zone.Asia
import WorldClock.Time.Zone.Europe
import WorldClock.Time.Zone.Oceania
/-!
# Time zones

A zone is a name and the history of its offsets. Several names can share a history. A zone keeps
the name it was asked for, whichever names share its history.

Zones are found by name in a table. The table of this library has the zones whose histories are
recorded here; whoever needs others brings a table of their own.
-/

namespace WorldClock

/-- A named place and the history of its offsets. -/
structure Zone where
  name : String
  history : History
deriving Repr

/-- The zones that are known, by name. -/
abbrev ZoneTable : Type := String → Option Zone

/-- The histories of this library, each with the names of the zones that follow it. -/
def zoneHistories : List (History × List String) := [
  (.newYork, ["America/New_York", "US/Eastern", "EST5EDT"]),
  (.chicago, ["America/Chicago", "US/Central", "CST6CDT"]),
  (.denver, ["America/Denver", "America/Shiprock", "Navajo", "US/Mountain", "MST7MDT"]),
  (.losAngeles, ["America/Los_Angeles", "US/Pacific", "PST8PDT"]),
  (.juneau, ["America/Juneau"]),
  (.stJohns, ["America/St_Johns", "Canada/Newfoundland"]),
  (.panama, [
    "America/Panama", "America/Atikokan", "America/Cayman", "America/Coral_Harbour", "EST"]),
  (.caracas, ["America/Caracas"]),
  (.saoPaulo, ["America/Sao_Paulo", "Brazil/East"]),
  (.london, [
    "Europe/London", "Europe/Belfast", "Europe/Guernsey", "Europe/Isle_of_Man", "Europe/Jersey",
    "GB", "GB-Eire"]),
  (.dublin, ["Europe/Dublin", "Eire"]),
  (.paris, ["Europe/Paris", "Europe/Monaco"]),
  (.brussels, ["Europe/Brussels", "Europe/Amsterdam", "Europe/Luxembourg", "MET"]),
  (.berlin, [
    "Europe/Berlin", "Europe/Copenhagen", "Europe/Oslo", "Europe/Stockholm",
    "Arctic/Longyearbyen", "Atlantic/Jan_Mayen"]),
  (.moscow, ["Europe/Moscow", "W-SU"]),
  (.istanbul, ["Europe/Istanbul", "Asia/Istanbul", "Turkey"]),
  (.casablanca, ["Africa/Casablanca"]),
  (.monrovia, ["Africa/Monrovia"]),
  (.cairo, ["Africa/Cairo", "Egypt"]),
  (.dubai, ["Asia/Dubai", "Asia/Muscat", "Indian/Mahe", "Indian/Reunion"]),
  (.tehran, ["Asia/Tehran", "Iran"]),
  (.kolkata, ["Asia/Kolkata", "Asia/Calcutta"]),
  (.kathmandu, ["Asia/Kathmandu", "Asia/Katmandu"]),
  (.shanghai, ["Asia/Shanghai", "Asia/Chongqing", "Asia/Chungking", "Asia/Harbin", "PRC"]),
  (.manila, ["Asia/Manila"]),
  (.pyongyang, ["Asia/Pyongyang"]),
  (.tokyo, ["Asia/Tokyo", "Japan"]),
  (.sydney, ["Australia/Sydney", "Australia/ACT", "Australia/Canberra", "Australia/NSW"]),
  (.lordHowe, ["Australia/Lord_Howe", "Australia/LHI"]),
  (.chatham, ["Pacific/Chatham", "NZ-CHAT"]),
  (.apia, ["Pacific/Apia"]),
  (.kiritimati, ["Pacific/Kiritimati"]),
  (.kwajalein, ["Pacific/Kwajalein", "Kwajalein"]),
  (.troll, ["Antarctica/Troll"]),
  (.constant 0, [
    "UTC", "UCT", "Universal", "Zulu", "GMT", "GMT0", "GMT+0", "GMT-0", "Greenwich", "Etc/UTC",
    "Etc/UCT", "Etc/Universal", "Etc/Zulu", "Etc/GMT", "Etc/GMT0", "Etc/GMT+0", "Etc/GMT-0",
    "Etc/Greenwich"]),
  (.constant (-3600), ["Etc/GMT+1"]),
  (.constant (-7200), ["Etc/GMT+2"]),
  (.constant (-10800), ["Etc/GMT+3"]),
  (.constant (-14400), ["Etc/GMT+4"]),
  (.constant (-18000), ["Etc/GMT+5"]),
  (.constant (-21600), ["Etc/GMT+6"]),
  (.constant (-25200), ["Etc/GMT+7"]),
  (.constant (-28800), ["Etc/GMT+8"]),
  (.constant (-32400), ["Etc/GMT+9"]),
  (.constant (-36000), ["Etc/GMT+10"]),
  (.constant (-39600), ["Etc/GMT+11"]),
  (.constant (-43200), ["Etc/GMT+12"]),
  (.constant 3600, ["Etc/GMT-1"]),
  (.constant 7200, ["Etc/GMT-2"]),
  (.constant 10800, ["Etc/GMT-3"]),
  (.constant 14400, ["Etc/GMT-4"]),
  (.constant 18000, ["Etc/GMT-5"]),
  (.constant 21600, ["Etc/GMT-6"]),
  (.constant 25200, ["Etc/GMT-7"]),
  (.constant 28800, ["Etc/GMT-8"]),
  (.constant 32400, ["Etc/GMT-9"]),
  (.constant 36000, ["Etc/GMT-10"]),
  (.constant 39600, ["Etc/GMT-11"]),
  (.constant 43200, ["Etc/GMT-12"]),
  (.constant 46800, ["Etc/GMT-13"]),
  (.constant 50400, ["Etc/GMT-14"])
  ]

/-- The recorded history that a zone name follows, if there is one. -/
def historyOf? (name : String) : Option History :=
  (zoneHistories.find? fun (_, names) => names.contains name).map Prod.fst

namespace Zone

/-- Universal time. -/
def utc : Zone := ⟨"UTC", .constant 0⟩

/-- The zone with a name, if its history is recorded. Upper and lower case count. -/
def find? : ZoneTable := fun name =>
  (historyOf? name).map fun history => ⟨name, history⟩

end Zone

end WorldClock
