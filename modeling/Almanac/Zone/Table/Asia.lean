import Almanac.Zone.Rules

namespace Almanac

def dhakaRules : ZoneRules where
  initial := 21700
  changes := [
    ⟨-2524543300, 21200⟩, ⟨-891582800, 23400⟩, ⟨-872058600, 19800⟩, ⟨-862637400, 23400⟩,
    ⟨-576138600, 21600⟩, ⟨1245430800, 25200⟩, ⟨1262278800, 21600⟩]
  yearly := none

def hoChiMinhRules : ZoneRules where
  initial := 25590
  changes := [
    ⟨-1851577590, 25200⟩, ⟨-852105600, 28800⟩, ⟨-782643600, 32400⟩, ⟨-767869200, 25200⟩,
    ⟨-718095600, 28800⟩, ⟨-457772400, 25200⟩, ⟨-315648000, 28800⟩, ⟨171820800, 25200⟩]
  yearly := none

def karachiRules : ZoneRules where
  initial := 16092
  changes := [
    ⟨-1988166492, 19800⟩, ⟨-862637400, 23400⟩, ⟨-764145000, 19800⟩, ⟨-576135000, 18000⟩,
    ⟨1018119600, 21600⟩, ⟨1033840800, 18000⟩, ⟨1212260400, 21600⟩, ⟨1225476000, 18000⟩,
    ⟨1239735600, 21600⟩, ⟨1257012000, 18000⟩]
  yearly := none

def kathmanduRules : ZoneRules where
  initial := 20476
  changes := [
    ⟨-1577943676, 19800⟩, ⟨504901800, 20700⟩]
  yearly := none

def kolkataRules : ZoneRules where
  initial := 21208
  changes := [
    ⟨-3645237208, 21200⟩, ⟨-3155694800, 19270⟩, ⟨-2019705670, 19800⟩, ⟨-891581400, 23400⟩,
    ⟨-872058600, 19800⟩, ⟨-862637400, 23400⟩, ⟨-764145000, 19800⟩]
  yearly := none

def shanghaiRules : ZoneRules where
  initial := 29143
  changes := [
    ⟨-2177481943, 28800⟩, ⟨-1600675200, 32400⟩, ⟨-1585904400, 28800⟩, ⟨-933667200, 32400⟩,
    ⟨-922093200, 28800⟩, ⟨-908870400, 32400⟩, ⟨-888829200, 28800⟩, ⟨-881049600, 32400⟩,
    ⟨-767869200, 28800⟩, ⟨-745833600, 32400⟩, ⟨-733827600, 28800⟩, ⟨-716889600, 32400⟩,
    ⟨-699613200, 28800⟩, ⟨-683884800, 32400⟩, ⟨-670669200, 28800⟩, ⟨-652348800, 32400⟩,
    ⟨-650019600, 28800⟩, ⟨515527200, 32400⟩, ⟨527014800, 28800⟩, ⟨545162400, 32400⟩,
    ⟨558464400, 28800⟩, ⟨577216800, 32400⟩, ⟨589914000, 28800⟩, ⟨608666400, 32400⟩,
    ⟨621968400, 28800⟩, ⟨640116000, 32400⟩, ⟨653418000, 28800⟩, ⟨671565600, 32400⟩,
    ⟨684867600, 28800⟩]
  yearly := none

def tokyoRules : ZoneRules where
  initial := 33539
  changes := [
    ⟨-2587712400, 32400⟩, ⟨-683802000, 36000⟩, ⟨-672310800, 32400⟩, ⟨-654771600, 36000⟩,
    ⟨-640861200, 32400⟩, ⟨-620298000, 36000⟩, ⟨-609411600, 32400⟩, ⟨-588848400, 36000⟩,
    ⟨-577962000, 32400⟩]
  yearly := none

def yerevanRules : ZoneRules where
  initial := 10680
  changes := [
    ⟨-1441162680, 10800⟩, ⟨-405140400, 14400⟩, ⟨354916800, 18000⟩, ⟨370724400, 14400⟩,
    ⟨386452800, 18000⟩, ⟨402260400, 14400⟩, ⟨417988800, 18000⟩, ⟨433796400, 14400⟩,
    ⟨449611200, 18000⟩, ⟨465343200, 14400⟩, ⟨481068000, 18000⟩, ⟨496792800, 14400⟩,
    ⟨512517600, 18000⟩, ⟨528242400, 14400⟩, ⟨543967200, 18000⟩, ⟨559692000, 14400⟩,
    ⟨575416800, 18000⟩, ⟨591141600, 14400⟩, ⟨606866400, 18000⟩, ⟨622591200, 14400⟩,
    ⟨638316000, 18000⟩, ⟨654645600, 14400⟩, ⟨686098800, 10800⟩, ⟨701823600, 14400⟩,
    ⟨717548400, 10800⟩, ⟨733273200, 14400⟩, ⟨748998000, 10800⟩, ⟨764722800, 14400⟩,
    ⟨780447600, 10800⟩, ⟨796172400, 14400⟩, ⟨859672800, 18000⟩, ⟨877816800, 14400⟩,
    ⟨891122400, 18000⟩, ⟨909266400, 14400⟩, ⟨922572000, 18000⟩, ⟨941320800, 14400⟩,
    ⟨954021600, 18000⟩, ⟨972770400, 14400⟩, ⟨985471200, 18000⟩, ⟨1004220000, 14400⟩,
    ⟨1017525600, 18000⟩, ⟨1035669600, 14400⟩, ⟨1048975200, 18000⟩, ⟨1067119200, 14400⟩,
    ⟨1080424800, 18000⟩, ⟨1099173600, 14400⟩, ⟨1111874400, 18000⟩, ⟨1130623200, 14400⟩,
    ⟨1143324000, 18000⟩, ⟨1162072800, 14400⟩, ⟨1174773600, 18000⟩, ⟨1193522400, 14400⟩,
    ⟨1206828000, 18000⟩, ⟨1224972000, 14400⟩, ⟨1238277600, 18000⟩, ⟨1256421600, 14400⟩,
    ⟨1269727200, 18000⟩, ⟨1288476000, 14400⟩, ⟨1301176800, 18000⟩, ⟨1319925600, 14400⟩]
  yearly := none

def asianZones : List (String × ZoneRules) :=
  [("Asia/Dhaka", dhakaRules),
   ("Asia/Ho_Chi_Minh", hoChiMinhRules),
   ("Asia/Karachi", karachiRules),
   ("Asia/Kathmandu", kathmanduRules),
   ("Asia/Kolkata", kolkataRules),
   ("Asia/Shanghai", shanghaiRules),
   ("Asia/Tokyo", tokyoRules),
   ("Asia/Yerevan", yerevanRules)]

end Almanac
