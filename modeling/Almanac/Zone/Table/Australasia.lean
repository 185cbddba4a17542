import Almanac.Zone.Rules

namespace Almanac

def darwinRules : ZoneRules where
  initial := 31400
  changes := [
    ⟨-2364108200, 32400⟩, ⟨-2230189200, 34200⟩, ⟨-1672558200, 37800⟩, ⟨-1665387000, 34200⟩,
    ⟨-883639800, 37800⟩, ⟨-876123000, 34200⟩, ⟨-860398200, 37800⟩, ⟨-844673400, 34200⟩,
    ⟨-828343800, 37800⟩, ⟨-813223800, 34200⟩]
  yearly := none

def lordHoweRules : ZoneRules where
  initial := 38180
  changes := [
    ⟨-2364114980, 36000⟩, ⟨352216800, 37800⟩, ⟨372785400, 41400⟩, ⟨384273000, 37800⟩,
    ⟨404839800, 41400⟩, ⟨415722600, 37800⟩, ⟨436289400, 41400⟩, ⟨447172200, 37800⟩,
    ⟨467739000, 41400⟩, ⟨478621800, 37800⟩, ⟨499188600, 39600⟩, ⟨511282800, 37800⟩,
    ⟨530033400, 39600⟩, ⟨542732400, 37800⟩, ⟨562087800, 39600⟩, ⟨574786800, 37800⟩,
    ⟨594142200, 39600⟩, ⟨606236400, 37800⟩, ⟨625591800, 39600⟩, ⟨636476400, 37800⟩,
    ⟨657041400, 39600⟩, ⟨667926000, 37800⟩, ⟨688491000, 39600⟩, ⟨699375600, 37800⟩,
    ⟨719940600, 39600⟩, ⟨731430000, 37800⟩, ⟨751995000, 39600⟩, ⟨762879600, 37800⟩,
    ⟨783444600, 39600⟩, ⟨794329200, 37800⟩, ⟨814894200, 39600⟩, ⟨828198000, 37800⟩,
    ⟨846343800, 39600⟩, ⟨859647600, 37800⟩, ⟨877793400, 39600⟩, ⟨891097200, 37800⟩,
    ⟨909243000, 39600⟩, ⟨922546800, 37800⟩, ⟨941297400, 39600⟩, ⟨953996400, 37800⟩,
    ⟨967303800, 39600⟩, ⟨985446000, 37800⟩, ⟨1004196600, 39600⟩, ⟨1017500400, 37800⟩,
    ⟨1035646200, 39600⟩, ⟨1048950000, 37800⟩, ⟨1067095800, 39600⟩, ⟨1080399600, 37800⟩,
    ⟨1099150200, 39600⟩, ⟨1111849200, 37800⟩, ⟨1130599800, 39600⟩, ⟨1143903600, 37800⟩,
    ⟨1162049400, 39600⟩, ⟨1174748400, 37800⟩, ⟨1193499000, 39600⟩, ⟨1207407600, 37800⟩]
  yearly := some {
    standard := 37800
    daylight := 39600
    toDaylight := ⟨10, 1, 0, 7200⟩
    toStandard := ⟨4, 1, 0, 7200⟩ }

def sydneyRules : ZoneRules where
  initial := 36292
  changes := [
    ⟨-2364113092, 36000⟩, ⟨-1672560000, 39600⟩, ⟨-1665388800, 36000⟩, ⟨-883641600, 39600⟩,
    ⟨-876124800, 36000⟩, ⟨-860400000, 39600⟩, ⟨-844675200, 36000⟩, ⟨-828345600, 39600⟩,
    ⟨-813225600, 36000⟩, ⟨57686400, 39600⟩, ⟨67968000, 36000⟩, ⟨89136000, 39600⟩,
    ⟨100022400, 36000⟩, ⟨120585600, 39600⟩, ⟨131472000, 36000⟩, ⟨152035200, 39600⟩,
    ⟨162921600, 36000⟩, ⟨183484800, 39600⟩, ⟨194976000, 36000⟩, ⟨215539200, 39600⟩,
    ⟨226425600, 36000⟩, ⟨246988800, 39600⟩, ⟨257875200, 36000⟩, ⟨278438400, 39600⟩,
    ⟨289324800, 36000⟩, ⟨309888000, 39600⟩, ⟨320774400, 36000⟩, ⟨341337600, 39600⟩,
    ⟨352224000, 36000⟩, ⟨372787200, 39600⟩, ⟨386697600, 36000⟩, ⟨404841600, 39600⟩,
    ⟨415728000, 36000⟩, ⟨436291200, 39600⟩, ⟨447177600, 36000⟩, ⟨467740800, 39600⟩,
    ⟨478627200, 36000⟩, ⟨499190400, 39600⟩, ⟨511286400, 36000⟩, ⟨530035200, 39600⟩,
    ⟨542736000, 36000⟩, ⟨562089600, 39600⟩, ⟨574790400, 36000⟩, ⟨594144000, 39600⟩,
    ⟨606240000, 36000⟩, ⟨625593600, 39600⟩, ⟨636480000, 36000⟩, ⟨657043200, 39600⟩,
    ⟨667929600, 36000⟩, ⟨688492800, 39600⟩, ⟨699379200, 36000⟩, ⟨719942400, 39600⟩,
    ⟨731433600, 36000⟩, ⟨751996800, 39600⟩, ⟨762883200, 36000⟩, ⟨783446400, 39600⟩,
    ⟨794332800, 36000⟩, ⟨814896000, 39600⟩, ⟨828201600, 36000⟩, ⟨846345600, 39600⟩,
    ⟨859651200, 36000⟩, ⟨877795200, 39600⟩, ⟨891100800, 36000⟩, ⟨909244800, 39600⟩,
    ⟨922550400, 36000⟩, ⟨941299200, 39600⟩, ⟨954000000, 36000⟩, ⟨967305600, 39600⟩,
    ⟨985449600, 36000⟩, ⟨1004198400, 39600⟩, ⟨1017504000, 36000⟩, ⟨1035648000, 39600⟩,
    ⟨1048953600, 36000⟩, ⟨1067097600, 39600⟩, ⟨1080403200, 36000⟩, ⟨1099152000, 39600⟩,
    ⟨1111852800, 36000⟩, ⟨1130601600, 39600⟩, ⟨1143907200, 36000⟩, ⟨1162051200, 39600⟩,
    ⟨1174752000, 36000⟩, ⟨1193500800, 39600⟩, ⟨1207411200, 36000⟩]
  yearly := some {
    standard := 36000
    daylight := 39600
    toDaylight := ⟨10, 1, 0, 7200⟩
    toStandard := ⟨4, 1, 0, 10800⟩ }

def apiaRules : ZoneRules where
  initial := 45184
  changes := [
    ⟨-2445424384, -41216⟩, ⟨-1861878784, -41400⟩, ⟨-631110600, -39600⟩, ⟨1285498800, -36000⟩,
    ⟨1301752800, -39600⟩, ⟨1316872800, -36000⟩, ⟨1325239200, 50400⟩, ⟨1333202400, 46800⟩,
    ⟨1348927200, 50400⟩, ⟨1365256800, 46800⟩, ⟨1380376800, 50400⟩, ⟨1396706400, 46800⟩,
    ⟨1411826400, 50400⟩, ⟨1428156000, 46800⟩, ⟨1443276000, 50400⟩, ⟨1459605600, 46800⟩,
    ⟨1474725600, 50400⟩, ⟨1491055200, 46800⟩, ⟨1506175200, 50400⟩, ⟨1522504800, 46800⟩,
    ⟨1538229600, 50400⟩, ⟨1554559200, 46800⟩, ⟨1569679200, 50400⟩, ⟨1586008800, 46800⟩,
    ⟨1601128800, 50400⟩, ⟨1617458400, 46800⟩]
  yearly := none

def aucklandRules : ZoneRules where
  initial := 41944
  changes := [
    ⟨-3192435544, 41400⟩, ⟨-1330335000, 45000⟩, ⟨-1320057000, 41400⟩, ⟨-1300699800, 43200⟩,
    ⟨-1287396000, 41400⟩, ⟨-1269250200, 43200⟩, ⟨-1255946400, 41400⟩, ⟨-1237800600, 43200⟩,
    ⟨-1224496800, 41400⟩, ⟨-1206351000, 43200⟩, ⟨-1192442400, 41400⟩, ⟨-1174901400, 43200⟩,
    ⟨-1160992800, 41400⟩, ⟨-1143451800, 43200⟩, ⟨-1125914400, 41400⟩, ⟨-1112607000, 43200⟩,
    ⟨-1094464800, 41400⟩, ⟨-1081157400, 43200⟩, ⟨-1063015200, 41400⟩, ⟨-1049707800, 43200⟩,
    ⟨-1031565600, 41400⟩, ⟨-1018258200, 43200⟩, ⟨-1000116000, 41400⟩, ⟨-986808600, 43200⟩,
    ⟨-968061600, 41400⟩, ⟨-955359000, 43200⟩, ⟨-936612000, 41400⟩, ⟨-923304600, 43200⟩,
    ⟨152632800, 46800⟩, ⟨162309600, 43200⟩, ⟨183477600, 46800⟩, ⟨194968800, 43200⟩,
    ⟨215532000, 46800⟩, ⟨226418400, 43200⟩, ⟨246981600, 46800⟩, ⟨257868000, 43200⟩,
    ⟨278431200, 46800⟩, ⟨289317600, 43200⟩, ⟨309880800, 46800⟩, ⟨320767200, 43200⟩,
    ⟨341330400, 46800⟩, ⟨352216800, 43200⟩, ⟨372780000, 46800⟩, ⟨384271200, 43200⟩,
    ⟨404834400, 46800⟩, ⟨415720800, 43200⟩, ⟨436284000, 46800⟩, ⟨447170400, 43200⟩,
    ⟨467733600, 46800⟩, ⟨478620000, 43200⟩, ⟨499183200, 46800⟩, ⟨510069600, 43200⟩,
    ⟨530632800, 46800⟩, ⟨541519200, 43200⟩, ⟨562082400, 46800⟩, ⟨573573600, 43200⟩,
    ⟨594136800, 46800⟩, ⟨605023200, 43200⟩, ⟨623772000, 46800⟩, ⟨637682400, 43200⟩,
    ⟨655221600, 46800⟩, ⟨669132000, 43200⟩, ⟨686671200, 46800⟩, ⟨700581600, 43200⟩,
    ⟨718120800, 46800⟩, ⟨732636000, 43200⟩, ⟨749570400, 46800⟩, ⟨764085600, 43200⟩,
    ⟨781020000, 46800⟩, ⟨795535200, 43200⟩, ⟨812469600, 46800⟩, ⟨826984800, 43200⟩,
    ⟨844524000, 46800⟩, ⟨858434400, 43200⟩, ⟨875973600, 46800⟩, ⟨889884000, 43200⟩,
    ⟨907423200, 46800⟩, ⟨921938400, 43200⟩, ⟨938872800, 46800⟩, ⟨953388000, 43200⟩,
    ⟨970322400, 46800⟩, ⟨984837600, 43200⟩, ⟨1002376800, 46800⟩, ⟨1016287200, 43200⟩,
    ⟨1033826400, 46800⟩, ⟨1047736800, 43200⟩, ⟨1065276000, 46800⟩, ⟨1079791200, 43200⟩,
    ⟨1096725600, 46800⟩, ⟨1111240800, 43200⟩, ⟨1128175200, 46800⟩, ⟨1142690400, 43200⟩,
    ⟨1159624800, 46800⟩, ⟨1174140000, 43200⟩, ⟨1191074400, 46800⟩]
  yearly := some {
    standard := 43200
    daylight := 46800
    toDaylight := ⟨9, 5, 0, 7200⟩
    toStandard := ⟨4, 1, 0, 10800⟩ }

def guadalcanalRules : ZoneRules where
  initial := 38388
  changes := [
    ⟨-1806748788, 39600⟩]
  yearly := none

def australasianZones : List (String × ZoneRules) :=
  [("Australia/Darwin", darwinRules),
   ("Australia/Lord_Howe", lordHoweRules),
   ("Australia/Sydney", sydneyRules),
   ("Pacific/Apia", apiaRules),
   ("Pacific/Auckland", aucklandRules),
   ("Pacific/Guadalcanal", guadalcanalRules)]

end Almanac
