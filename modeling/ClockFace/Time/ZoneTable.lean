import ClockFace.Time.Zone

/-! # The zones with data

A few zones with the changes of their offsets on record, from local mean time on, and the rules by
which their clocks are changed today. -/

namespace ClockFace.Zone

/-- The clock of universal time. -/
def utc : Zone :=
  steady "UTC" 0

/-- The clock of Tokyo. -/
def tokyo : Zone where
  name := "Asia/Tokyo"
  first := 33539
  recorded :=
    [⟨-2587712400, 32400⟩, ⟨-683802000, 36000⟩, ⟨-672310800, 32400⟩, ⟨-654771600, 36000⟩,
     ⟨-640861200, 32400⟩, ⟨-620298000, 36000⟩, ⟨-609411600, 32400⟩, ⟨-588848400, 36000⟩,
     ⟨-577962000, 32400⟩]
  rule := none

/-- The clock of Kolkata. -/
def kolkata : Zone where
  name := "Asia/Kolkata"
  first := 21208
  recorded :=
    [⟨-3645237208, 21200⟩, ⟨-3155694800, 19270⟩, ⟨-2019705670, 19800⟩, ⟨-891581400, 23400⟩,
     ⟨-872058600, 19800⟩, ⟨-862637400, 23400⟩, ⟨-764145000, 19800⟩]
  rule := none

/-- The clock of Kathmandu. -/
def kathmandu : Zone where
  name := "Asia/Kathmandu"
  first := 20476
  recorded :=
    [⟨-1577943676, 19800⟩, ⟨504901800, 20700⟩]
  rule := none

/-- The clock of Kiritimati, the first to begin a day. -/
def kiritimati : Zone where
  name := "Pacific/Kiritimati"
  first := -37760
  recorded :=
    [⟨-2177415040, -38400⟩, ⟨307622400, -36000⟩, ⟨788868000, 50400⟩]
  rule := none

/-- The clock of Berlin. -/
def berlin : Zone where
  name := "Europe/Berlin"
  first := 3208
  recorded :=
    [⟨-2422054408, 3600⟩, ⟨-1693706400, 7200⟩, ⟨-1680483600, 3600⟩, ⟨-1663455600, 7200⟩,
     ⟨-1650150000, 3600⟩, ⟨-1632006000, 7200⟩, ⟨-1618700400, 3600⟩, ⟨-938905200, 7200⟩,
     ⟨-857257200, 3600⟩, ⟨-844556400, 7200⟩, ⟨-828226800, 3600⟩, ⟨-812502000, 7200⟩,
     ⟨-796777200, 3600⟩, ⟨-781052400, 7200⟩, ⟨-776563200, 10800⟩, ⟨-765936000, 7200⟩,
     ⟨-761180400, 3600⟩, ⟨-748479600, 7200⟩, ⟨-733273200, 3600⟩, ⟨-717631200, 7200⟩,
     ⟨-714610800, 10800⟩, ⟨-710380800, 7200⟩, ⟨-701910000, 3600⟩, ⟨-684975600, 7200⟩,
     ⟨-670460400, 3600⟩, ⟨-654130800, 7200⟩, ⟨-639010800, 3600⟩, ⟨323830800, 7200⟩,
     ⟨338950800, 3600⟩, ⟨354675600, 7200⟩, ⟨370400400, 3600⟩, ⟨386125200, 7200⟩, ⟨401850000, 3600⟩,
     ⟨417574800, 7200⟩, ⟨433299600, 3600⟩, ⟨449024400, 7200⟩, ⟨465354000, 3600⟩, ⟨481078800, 7200⟩,
     ⟨496803600, 3600⟩, ⟨512528400, 7200⟩, ⟨528253200, 3600⟩, ⟨543978000, 7200⟩, ⟨559702800, 3600⟩,
     ⟨575427600, 7200⟩, ⟨591152400, 3600⟩, ⟨606877200, 7200⟩, ⟨622602000, 3600⟩, ⟨638326800, 7200⟩,
     ⟨654656400, 3600⟩, ⟨670381200, 7200⟩, ⟨686106000, 3600⟩, ⟨701830800, 7200⟩, ⟨717555600, 3600⟩,
     ⟨733280400, 7200⟩, ⟨749005200, 3600⟩, ⟨764730000, 7200⟩, ⟨780454800, 3600⟩, ⟨796179600, 7200⟩,
     ⟨811904400, 3600⟩]
  rule := some ⟨1996, 3600, 7200, ⟨3, 5, 6, 7200⟩, ⟨10, 5, 6, 10800⟩⟩

/-- The clock of New York. -/
def newYork : Zone where
  name := "America/New_York"
  first := -17762
  recorded :=
    [⟨-2717650800, -18000⟩, ⟨-1633280400, -14400⟩, ⟨-1615140000, -18000⟩, ⟨-1601830800, -14400⟩,
     ⟨-1583690400, -18000⟩, ⟨-1570381200, -14400⟩, ⟨-1551636000, -18000⟩, ⟨-1536512400, -14400⟩,
     ⟨-1523210400, -18000⟩, ⟨-1504458000, -14400⟩, ⟨-1491760800, -18000⟩, ⟨-1473008400, -14400⟩,
     ⟨-1459706400, -18000⟩, ⟨-1441558800, -14400⟩, ⟨-1428256800, -18000⟩, ⟨-1410109200, -14400⟩,
     ⟨-1396807200, -18000⟩, ⟨-1378659600, -14400⟩, ⟨-1365357600, -18000⟩, ⟨-1347210000, -14400⟩,
     ⟨-1333908000, -18000⟩, ⟨-1315155600, -14400⟩, ⟨-1301853600, -18000⟩, ⟨-1283706000, -14400⟩,
     ⟨-1270404000, -18000⟩, ⟨-1252256400, -14400⟩, ⟨-1238954400, -18000⟩, ⟨-1220806800, -14400⟩,
     ⟨-1207504800, -18000⟩, ⟨-1189357200, -14400⟩, ⟨-1176055200, -18000⟩, ⟨-1157302800, -14400⟩,
     ⟨-1144605600, -18000⟩, ⟨-1125853200, -14400⟩, ⟨-1112551200, -18000⟩, ⟨-1094403600, -14400⟩,
     ⟨-1081101600, -18000⟩, ⟨-1062954000, -14400⟩, ⟨-1049652000, -18000⟩, ⟨-1031504400, -14400⟩,
     ⟨-1018202400, -18000⟩, ⟨-1000054800, -14400⟩, ⟨-986752800, -18000⟩, ⟨-968000400, -14400⟩,
     ⟨-955303200, -18000⟩, ⟨-936550800, -14400⟩, ⟨-923248800, -18000⟩, ⟨-905101200, -14400⟩,
     ⟨-891799200, -18000⟩, ⟨-880218000, -14400⟩, ⟨-765396000, -18000⟩, ⟨-747248400, -14400⟩,
     ⟨-733946400, -18000⟩, ⟨-715798800, -14400⟩, ⟨-702496800, -18000⟩, ⟨-684349200, -14400⟩,
     ⟨-671047200, -18000⟩, ⟨-652899600, -14400⟩, ⟨-639597600, -18000⟩, ⟨-620845200, -14400⟩,
     ⟨-608148000, -18000⟩, ⟨-589395600, -14400⟩, ⟨-576093600, -18000⟩, ⟨-557946000, -14400⟩,
     ⟨-544644000, -18000⟩, ⟨-526496400, -14400⟩, ⟨-513194400, -18000⟩, ⟨-495046800, -14400⟩,
     ⟨-481744800, -18000⟩, ⟨-463597200, -14400⟩, ⟨-447271200, -18000⟩, ⟨-431542800, -14400⟩,
     ⟨-415821600, -18000⟩, ⟨-400093200, -14400⟩, ⟨-384372000, -18000⟩, ⟨-368643600, -14400⟩,
     ⟨-352922400, -18000⟩, ⟨-337194000, -14400⟩, ⟨-321472800, -18000⟩, ⟨-305744400, -14400⟩,
     ⟨-289418400, -18000⟩, ⟨-273690000, -14400⟩, ⟨-257968800, -18000⟩, ⟨-242240400, -14400⟩,
     ⟨-226519200, -18000⟩, ⟨-210790800, -14400⟩, ⟨-195069600, -18000⟩, ⟨-179341200, -14400⟩,
     ⟨-163620000, -18000⟩, ⟨-147891600, -14400⟩, ⟨-131565600, -18000⟩, ⟨-116442000, -14400⟩,
     ⟨-100116000, -18000⟩, ⟨-84387600, -14400⟩, ⟨-68666400, -18000⟩, ⟨-52938000, -14400⟩,
     ⟨-37216800, -18000⟩, ⟨-21488400, -14400⟩, ⟨-5767200, -18000⟩, ⟨9961200, -14400⟩,
     ⟨25682400, -18000⟩, ⟨41410800, -14400⟩, ⟨57736800, -18000⟩, ⟨73465200, -14400⟩,
     ⟨89186400, -18000⟩, ⟨104914800, -14400⟩, ⟨120636000, -18000⟩, ⟨126687600, -14400⟩,
     ⟨152085600, -18000⟩, ⟨162370800, -14400⟩, ⟨183535200, -18000⟩, ⟨199263600, -14400⟩,
     ⟨215589600, -18000⟩, ⟨230713200, -14400⟩, ⟨247039200, -18000⟩, ⟨262767600, -14400⟩,
     ⟨278488800, -18000⟩, ⟨294217200, -14400⟩, ⟨309938400, -18000⟩, ⟨325666800, -14400⟩,
     ⟨341388000, -18000⟩, ⟨357116400, -14400⟩, ⟨372837600, -18000⟩, ⟨388566000, -14400⟩,
     ⟨404892000, -18000⟩, ⟨420015600, -14400⟩, ⟨436341600, -18000⟩, ⟨452070000, -14400⟩,
     ⟨467791200, -18000⟩, ⟨483519600, -14400⟩, ⟨499240800, -18000⟩, ⟨514969200, -14400⟩,
     ⟨530690400, -18000⟩, ⟨544604400, -14400⟩, ⟨562140000, -18000⟩, ⟨576054000, -14400⟩,
     ⟨594194400, -18000⟩, ⟨607503600, -14400⟩, ⟨625644000, -18000⟩, ⟨638953200, -14400⟩,
     ⟨657093600, -18000⟩, ⟨671007600, -14400⟩, ⟨688543200, -18000⟩, ⟨702457200, -14400⟩,
     ⟨719992800, -18000⟩, ⟨733906800, -14400⟩, ⟨752047200, -18000⟩, ⟨765356400, -14400⟩,
     ⟨783496800, -18000⟩, ⟨796806000, -14400⟩, ⟨814946400, -18000⟩, ⟨828860400, -14400⟩,
     ⟨846396000, -18000⟩, ⟨860310000, -14400⟩, ⟨877845600, -18000⟩, ⟨891759600, -14400⟩,
     ⟨909295200, -18000⟩, ⟨923209200, -14400⟩, ⟨941349600, -18000⟩, ⟨954658800, -14400⟩,
     ⟨972799200, -18000⟩, ⟨986108400, -14400⟩, ⟨1004248800, -18000⟩, ⟨1018162800, -14400⟩,
     ⟨1035698400, -18000⟩, ⟨1049612400, -14400⟩, ⟨1067148000, -18000⟩, ⟨1081062000, -14400⟩,
     ⟨1099202400, -18000⟩, ⟨1112511600, -14400⟩, ⟨1130652000, -18000⟩, ⟨1143961200, -14400⟩,
     ⟨1162101600, -18000⟩]
  rule := some ⟨2007, -18000, -14400, ⟨3, 2, 6, 7200⟩, ⟨11, 1, 6, 7200⟩⟩

/-- The clock of St. John's in Newfoundland, at half an hour past the hour. -/
def stJohns : Zone where
  name := "America/St_Johns"
  first := -12652
  recorded :=
    [⟨-1664130548, -9052⟩, ⟨-1650137348, -12652⟩, ⟨-1632076148, -9052⟩, ⟨-1615145348, -12652⟩,
     ⟨-1598650148, -9052⟩, ⟨-1590100148, -12652⟩, ⟨-1567286948, -9052⟩, ⟨-1551565748, -12652⟩,
     ⟨-1535837348, -9052⟩, ⟨-1520116148, -12652⟩, ⟨-1503782948, -9052⟩, ⟨-1488666548, -12652⟩,
     ⟨-1472333348, -9052⟩, ⟨-1457216948, -12652⟩, ⟨-1440883748, -9052⟩, ⟨-1425767348, -12652⟩,
     ⟨-1409434148, -9052⟩, ⟨-1394317748, -12652⟩, ⟨-1377984548, -9052⟩, ⟨-1362263348, -12652⟩,
     ⟨-1346534948, -9052⟩, ⟨-1330813748, -12652⟩, ⟨-1314480548, -9052⟩, ⟨-1299364148, -12652⟩,
     ⟨-1283030948, -9052⟩, ⟨-1267914548, -12652⟩, ⟨-1251581348, -9052⟩, ⟨-1236464948, -12652⟩,
     ⟨-1220131748, -9052⟩, ⟨-1205015348, -12652⟩, ⟨-1188682148, -9052⟩, ⟨-1172960948, -12652⟩,
     ⟨-1156627748, -9052⟩, ⟨-1141511348, -12652⟩, ⟨-1125178148, -9052⟩, ⟨-1110061748, -12652⟩,
     ⟨-1096921748, -12600⟩, ⟨-1093728600, -9000⟩, ⟨-1078612200, -12600⟩, ⟨-1061670600, -9000⟩,
     ⟨-1048973400, -12600⟩, ⟨-1030221000, -9000⟩, ⟨-1017523800, -12600⟩, ⟨-998771400, -9000⟩,
     ⟨-986074200, -12600⟩, ⟨-966717000, -9000⟩, ⟨-954624600, -12600⟩, ⟨-935267400, -9000⟩,
     ⟨-922570200, -12600⟩, ⟨-903817800, -9000⟩, ⟨-891120600, -12600⟩, ⟨-872368200, -9000⟩,
     ⟨-765401400, -12600⟩, ⟨-746044200, -9000⟩, ⟨-733347000, -12600⟩, ⟨-714594600, -9000⟩,
     ⟨-701897400, -12600⟩, ⟨-683145000, -9000⟩, ⟨-670447800, -12600⟩, ⟨-651695400, -9000⟩,
     ⟨-638998200, -12600⟩, ⟨-619641000, -9000⟩, ⟨-606943800, -12600⟩, ⟨-589401000, -9000⟩,
     ⟨-576099000, -12600⟩, ⟨-557951400, -9000⟩, ⟨-544649400, -12600⟩, ⟨-526501800, -9000⟩,
     ⟨-513199800, -12600⟩, ⟨-495052200, -9000⟩, ⟨-481750200, -12600⟩, ⟨-463602600, -9000⟩,
     ⟨-450300600, -12600⟩, ⟨-431548200, -9000⟩, ⟨-418246200, -12600⟩, ⟨-400098600, -9000⟩,
     ⟨-386796600, -12600⟩, ⟨-368649000, -9000⟩, ⟨-355347000, -12600⟩, ⟨-337199400, -9000⟩,
     ⟨-323897400, -12600⟩, ⟨-305749800, -9000⟩, ⟨-289423800, -12600⟩, ⟨-273695400, -9000⟩,
     ⟨-257974200, -12600⟩, ⟨-242245800, -9000⟩, ⟨-226524600, -12600⟩, ⟨-210796200, -9000⟩,
     ⟨-195075000, -12600⟩, ⟨-179346600, -9000⟩, ⟨-163625400, -12600⟩, ⟨-147897000, -9000⟩,
     ⟨-131571000, -12600⟩, ⟨-116447400, -9000⟩, ⟨-100121400, -12600⟩, ⟨-84393000, -9000⟩,
     ⟨-68671800, -12600⟩, ⟨-52943400, -9000⟩, ⟨-37222200, -12600⟩, ⟨-21493800, -9000⟩,
     ⟨-5772600, -12600⟩, ⟨9955800, -9000⟩, ⟨25677000, -12600⟩, ⟨41405400, -9000⟩,
     ⟨57731400, -12600⟩, ⟨73459800, -9000⟩, ⟨89181000, -12600⟩, ⟨104909400, -9000⟩,
     ⟨120630600, -12600⟩, ⟨136359000, -9000⟩, ⟨152080200, -12600⟩, ⟨167808600, -9000⟩,
     ⟨183529800, -12600⟩, ⟨199258200, -9000⟩, ⟨215584200, -12600⟩, ⟨230707800, -9000⟩,
     ⟨247033800, -12600⟩, ⟨262762200, -9000⟩, ⟨278483400, -12600⟩, ⟨294211800, -9000⟩,
     ⟨309933000, -12600⟩, ⟨325661400, -9000⟩, ⟨341382600, -12600⟩, ⟨357111000, -9000⟩,
     ⟨372832200, -12600⟩, ⟨388560600, -9000⟩, ⟨404886600, -12600⟩, ⟨420010200, -9000⟩,
     ⟨436336200, -12600⟩, ⟨452064600, -9000⟩, ⟨467785800, -12600⟩, ⟨483514200, -9000⟩,
     ⟨499235400, -12600⟩, ⟨514963800, -9000⟩, ⟨530685000, -12600⟩, ⟨544591860, -9000⟩,
     ⟨562127460, -12600⟩, ⟨576041460, -5400⟩, ⟨594178260, -12600⟩, ⟨607491060, -9000⟩,
     ⟨625631460, -12600⟩, ⟨638940660, -9000⟩, ⟨657081060, -12600⟩, ⟨670995060, -9000⟩,
     ⟨688530660, -12600⟩, ⟨702444660, -9000⟩, ⟨719980260, -12600⟩, ⟨733894260, -9000⟩,
     ⟨752034660, -12600⟩, ⟨765343860, -9000⟩, ⟨783484260, -12600⟩, ⟨796793460, -9000⟩,
     ⟨814933860, -12600⟩, ⟨828847860, -9000⟩, ⟨846383460, -12600⟩, ⟨860297460, -9000⟩,
     ⟨877833060, -12600⟩, ⟨891747060, -9000⟩, ⟨909282660, -12600⟩, ⟨923196660, -9000⟩,
     ⟨941337060, -12600⟩, ⟨954646260, -9000⟩, ⟨972786660, -12600⟩, ⟨986095860, -9000⟩,
     ⟨1004236260, -12600⟩, ⟨1018150260, -9000⟩, ⟨1035685860, -12600⟩, ⟨1049599860, -9000⟩,
     ⟨1067135460, -12600⟩, ⟨1081049460, -9000⟩, ⟨1099189860, -12600⟩, ⟨1112499060, -9000⟩,
     ⟨1130639460, -12600⟩, ⟨1143948660, -9000⟩, ⟨1162089060, -12600⟩, ⟨1173583860, -9000⟩,
     ⟨1194143460, -12600⟩, ⟨1205033460, -9000⟩, ⟨1225593060, -12600⟩, ⟨1236483060, -9000⟩,
     ⟨1257042660, -12600⟩, ⟨1268537460, -9000⟩, ⟨1289097060, -12600⟩, ⟨1299987060, -9000⟩,
     ⟨1320553800, -12600⟩]
  rule := some ⟨2012, -12600, -9000, ⟨3, 2, 6, 7200⟩, ⟨11, 1, 6, 7200⟩⟩

/-- The clock of Lord Howe Island, whose summer time is half an hour. -/
def lordHowe : Zone where
  name := "Australia/Lord_Howe"
  first := 38180
  recorded :=
    [⟨-2364114980, 36000⟩, ⟨352216800, 37800⟩, ⟨372785400, 41400⟩, ⟨384273000, 37800⟩,
     ⟨404839800, 41400⟩, ⟨415722600, 37800⟩, ⟨436289400, 41400⟩, ⟨447172200, 37800⟩,
     ⟨467739000, 41400⟩, ⟨478621800, 37800⟩, ⟨499188600, 39600⟩, ⟨511282800, 37800⟩,
     ⟨530033400, 39600⟩, ⟨542732400, 37800⟩, ⟨562087800, 39600⟩, ⟨574786800, 37800⟩,
     ⟨594142200, 39600⟩, ⟨606236400, 37800⟩, ⟨625591800, 39600⟩, ⟨636476400, 37800⟩,
     ⟨657041400, 39600⟩, ⟨667926000, 37800⟩, ⟨688491000, 39600⟩, ⟨699375600, 37800⟩,
     ⟨719940600, 39600⟩, ⟨731430000, 37800⟩, ⟨751995000, 39600⟩, ⟨762879600, 37800⟩,
     ⟨783444600, 39600⟩, ⟨794329200, 37800⟩, ⟨814894200, 39600⟩, ⟨828198000, 37800⟩,
     ⟨846343800, 39600⟩, ⟨859647600, 37800⟩, ⟨877793400, 39600⟩, ⟨891097200, 37800⟩,
     ⟨909243000, 39600⟩, ⟨922546800, 37800⟩, ⟨941297400, 39600⟩, ⟨953996400, 37800⟩,
     ⟨967303800, 39600⟩, ⟨985446000, 37800⟩, ⟨1004196600, 39600⟩, ⟨1017500400, 37800⟩,
     ⟨1035646200, 39600⟩, ⟨1048950000, 37800⟩, ⟨1067095800, 39600⟩, ⟨1080399600, 37800⟩,
     ⟨1099150200, 39600⟩, ⟨1111849200, 37800⟩, ⟨1130599800, 39600⟩, ⟨1143903600, 37800⟩,
     ⟨1162049400, 39600⟩, ⟨1174748400, 37800⟩, ⟨1193499000, 39600⟩]
  rule := some ⟨2008, 37800, 39600, ⟨10, 1, 6, 7200⟩, ⟨4, 1, 6, 7200⟩⟩

/-- Every zone that has data. -/
def known : List Zone :=
  [utc, tokyo, kolkata, kathmandu, kiritimati, berlin, newYork, stJohns, lordHowe]

/-- The table of the zones that have data. -/
def table : ZoneTable := fun name =>
  known.find? (·.name == name)

end ClockFace.Zone
