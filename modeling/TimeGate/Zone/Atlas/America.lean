import TimeGate.Zone.Rule

/-! American zones. A change is the second from which it holds, in UTC from the start of 1970, and the offset
in seconds; the rule holds from the last change on. -/

set_option autoImplicit false

namespace TimeGate.Atlas

def toronto : Zone where
  name := "America/Toronto"
  before := -19052
  changes := [
    ⟨-2366736148, -18000⟩, ⟨-1632070800, -14400⟩, ⟨-1615140000, -18000⟩, ⟨-1601753400, -14400⟩,
    ⟨-1583697600, -18000⟩, ⟨-1567357200, -14400⟩, ⟨-1554667200, -18000⟩, ⟨-1534698000, -14400⟩,
    ⟨-1524074400, -18000⟩, ⟨-1503248400, -14400⟩, ⟨-1492365600, -18000⟩, ⟨-1471798800, -14400⟩,
    ⟨-1460916000, -18000⟩, ⟨-1440954000, -14400⟩, ⟨-1428861600, -18000⟩, ⟨-1409504400, -14400⟩,
    ⟨-1397412000, -18000⟩, ⟨-1378054800, -14400⟩, ⟨-1365962400, -18000⟩, ⟨-1346605200, -14400⟩,
    ⟨-1333908000, -18000⟩, ⟨-1315155600, -14400⟩, ⟨-1301853600, -18000⟩, ⟨-1283706000, -14400⟩,
    ⟨-1270404000, -18000⟩, ⟨-1252256400, -14400⟩, ⟨-1238954400, -18000⟩, ⟨-1220806800, -14400⟩,
    ⟨-1207504800, -18000⟩, ⟨-1188752400, -14400⟩, ⟨-1176055200, -18000⟩, ⟨-1157302800, -14400⟩,
    ⟨-1144000800, -18000⟩, ⟨-1125853200, -14400⟩, ⟨-1112551200, -18000⟩, ⟨-1094403600, -14400⟩,
    ⟨-1081101600, -18000⟩, ⟨-1062954000, -14400⟩, ⟨-1049652000, -18000⟩, ⟨-1031504400, -14400⟩,
    ⟨-1018202400, -18000⟩, ⟨-1000054800, -14400⟩, ⟨-986752800, -18000⟩, ⟨-968000400, -14400⟩,
    ⟨-955303200, -18000⟩, ⟨-936550800, -14400⟩, ⟨-880218000, -14400⟩, ⟨-769395600, -14400⟩,
    ⟨-765396000, -18000⟩, ⟨-747248400, -14400⟩, ⟨-733946400, -18000⟩, ⟨-715798800, -14400⟩,
    ⟨-702496800, -18000⟩, ⟨-684349200, -14400⟩, ⟨-671047200, -18000⟩, ⟨-652899600, -14400⟩,
    ⟨-634154400, -18000⟩, ⟨-620845200, -14400⟩, ⟨-602704800, -18000⟩, ⟨-589395600, -14400⟩,
    ⟨-576093600, -18000⟩, ⟨-557946000, -14400⟩, ⟨-544644000, -18000⟩, ⟨-526496400, -14400⟩,
    ⟨-513194400, -18000⟩, ⟨-495046800, -14400⟩, ⟨-481744800, -18000⟩, ⟨-463597200, -14400⟩,
    ⟨-450295200, -18000⟩, ⟨-431542800, -14400⟩, ⟨-418240800, -18000⟩, ⟨-400093200, -14400⟩,
    ⟨-384372000, -18000⟩, ⟨-368643600, -14400⟩, ⟨-352922400, -18000⟩, ⟨-337194000, -14400⟩,
    ⟨-321472800, -18000⟩, ⟨-305744400, -14400⟩, ⟨-289418400, -18000⟩, ⟨-273690000, -14400⟩,
    ⟨-257968800, -18000⟩, ⟨-242240400, -14400⟩, ⟨-226519200, -18000⟩, ⟨-210790800, -14400⟩,
    ⟨-195069600, -18000⟩, ⟨-179341200, -14400⟩, ⟨-163620000, -18000⟩, ⟨-147891600, -14400⟩,
    ⟨-131565600, -18000⟩, ⟨-116442000, -14400⟩, ⟨-100116000, -18000⟩, ⟨-84387600, -14400⟩,
    ⟨-68666400, -18000⟩, ⟨-52938000, -14400⟩, ⟨-37216800, -18000⟩, ⟨-21488400, -14400⟩,
    ⟨-5767200, -18000⟩, ⟨9961200, -14400⟩, ⟨25682400, -18000⟩, ⟨41410800, -14400⟩,
    ⟨57736800, -18000⟩, ⟨73465200, -14400⟩, ⟨89186400, -18000⟩, ⟨104914800, -14400⟩,
    ⟨120636000, -18000⟩, ⟨136364400, -14400⟩, ⟨152085600, -18000⟩, ⟨167814000, -14400⟩,
    ⟨183535200, -18000⟩, ⟨199263600, -14400⟩, ⟨215589600, -18000⟩, ⟨230713200, -14400⟩,
    ⟨247039200, -18000⟩, ⟨262767600, -14400⟩, ⟨278488800, -18000⟩, ⟨294217200, -14400⟩,
    ⟨309938400, -18000⟩, ⟨325666800, -14400⟩, ⟨341388000, -18000⟩, ⟨357116400, -14400⟩,
    ⟨372837600, -18000⟩, ⟨388566000, -14400⟩, ⟨404892000, -18000⟩, ⟨420015600, -14400⟩,
    ⟨436341600, -18000⟩, ⟨452070000, -14400⟩, ⟨467791200, -18000⟩, ⟨483519600, -14400⟩,
    ⟨499240800, -18000⟩, ⟨514969200, -14400⟩, ⟨530690400, -18000⟩, ⟨544604400, -14400⟩,
    ⟨562140000, -18000⟩, ⟨576054000, -14400⟩, ⟨594194400, -18000⟩, ⟨607503600, -14400⟩,
    ⟨625644000, -18000⟩, ⟨638953200, -14400⟩, ⟨657093600, -18000⟩, ⟨671007600, -14400⟩,
    ⟨688543200, -18000⟩, ⟨702457200, -14400⟩, ⟨719992800, -18000⟩, ⟨733906800, -14400⟩,
    ⟨752047200, -18000⟩, ⟨765356400, -14400⟩, ⟨783496800, -18000⟩, ⟨796806000, -14400⟩,
    ⟨814946400, -18000⟩, ⟨828860400, -14400⟩, ⟨846396000, -18000⟩, ⟨860310000, -14400⟩,
    ⟨877845600, -18000⟩, ⟨891759600, -14400⟩, ⟨909295200, -18000⟩, ⟨923209200, -14400⟩,
    ⟨941349600, -18000⟩, ⟨954658800, -14400⟩, ⟨972799200, -18000⟩, ⟨986108400, -14400⟩,
    ⟨1004248800, -18000⟩, ⟨1018162800, -14400⟩, ⟨1035698400, -18000⟩, ⟨1049612400, -14400⟩,
    ⟨1067148000, -18000⟩, ⟨1081062000, -14400⟩, ⟨1099202400, -18000⟩, ⟨1112511600, -14400⟩,
    ⟨1130652000, -18000⟩, ⟨1143961200, -14400⟩, ⟨1162101600, -18000⟩, ⟨1173596400, -14400⟩]
  rule := .seasonal (-18000) (-14400) ⟨3, 2, 0, 7200⟩ ⟨11, 1, 0, 7200⟩

def stJohns : Zone where
  name := "America/St_Johns"
  before := -12652
  changes := [
    ⟨-2713897748, -12652⟩, ⟨-1664130548, -9052⟩, ⟨-1650137348, -12652⟩, ⟨-1632076148, -9052⟩,
    ⟨-1615145348, -12652⟩, ⟨-1598650148, -9052⟩, ⟨-1590100148, -12652⟩, ⟨-1567286948, -9052⟩,
    ⟨-1551565748, -12652⟩, ⟨-1535837348, -9052⟩, ⟨-1520116148, -12652⟩, ⟨-1503782948, -9052⟩,
    ⟨-1488666548, -12652⟩, ⟨-1472333348, -9052⟩, ⟨-1457216948, -12652⟩, ⟨-1440883748, -9052⟩,
    ⟨-1425767348, -12652⟩, ⟨-1409434148, -9052⟩, ⟨-1394317748, -12652⟩, ⟨-1377984548, -9052⟩,
    ⟨-1362263348, -12652⟩, ⟨-1346534948, -9052⟩, ⟨-1330813748, -12652⟩, ⟨-1314480548, -9052⟩,
    ⟨-1299364148, -12652⟩, ⟨-1283030948, -9052⟩, ⟨-1267914548, -12652⟩, ⟨-1251581348, -9052⟩,
    ⟨-1236464948, -12652⟩, ⟨-1220131748, -9052⟩, ⟨-1205015348, -12652⟩, ⟨-1188682148, -9052⟩,
    ⟨-1172960948, -12652⟩, ⟨-1156627748, -9052⟩, ⟨-1141511348, -12652⟩, ⟨-1125178148, -9052⟩,
    ⟨-1110061748, -12652⟩, ⟨-1096921748, -12600⟩, ⟨-1093728600, -9000⟩, ⟨-1078612200, -12600⟩,
    ⟨-1061670600, -9000⟩, ⟨-1048973400, -12600⟩, ⟨-1030221000, -9000⟩, ⟨-1017523800, -12600⟩,
    ⟨-998771400, -9000⟩, ⟨-986074200, -12600⟩, ⟨-966717000, -9000⟩, ⟨-954624600, -12600⟩,
    ⟨-935267400, -9000⟩, ⟨-922570200, -12600⟩, ⟨-903817800, -9000⟩, ⟨-891120600, -12600⟩,
    ⟨-872368200, -9000⟩, ⟨-769395600, -9000⟩, ⟨-765401400, -12600⟩, ⟨-746044200, -9000⟩,
    ⟨-733347000, -12600⟩, ⟨-714594600, -9000⟩, ⟨-701897400, -12600⟩, ⟨-683145000, -9000⟩,
    ⟨-670447800, -12600⟩, ⟨-651695400, -9000⟩, ⟨-638998200, -12600⟩, ⟨-619641000, -9000⟩,
    ⟨-606943800, -12600⟩, ⟨-589401000, -9000⟩, ⟨-576099000, -12600⟩, ⟨-557951400, -9000⟩,
    ⟨-544649400, -12600⟩, ⟨-526501800, -9000⟩, ⟨-513199800, -12600⟩, ⟨-495052200, -9000⟩,
    ⟨-481750200, -12600⟩, ⟨-463602600, -9000⟩, ⟨-450300600, -12600⟩, ⟨-431548200, -9000⟩,
    ⟨-418246200, -12600⟩, ⟨-400098600, -9000⟩, ⟨-386796600, -12600⟩, ⟨-368649000, -9000⟩,
    ⟨-355347000, -12600⟩, ⟨-337199400, -9000⟩, ⟨-323897400, -12600⟩, ⟨-305749800, -9000⟩,
    ⟨-289423800, -12600⟩, ⟨-273695400, -9000⟩, ⟨-257974200, -12600⟩, ⟨-242245800, -9000⟩,
    ⟨-226524600, -12600⟩, ⟨-210796200, -9000⟩, ⟨-195075000, -12600⟩, ⟨-179346600, -9000⟩,
    ⟨-163625400, -12600⟩, ⟨-147897000, -9000⟩, ⟨-131571000, -12600⟩, ⟨-116447400, -9000⟩,
    ⟨-100121400, -12600⟩, ⟨-84393000, -9000⟩, ⟨-68671800, -12600⟩, ⟨-52943400, -9000⟩,
    ⟨-37222200, -12600⟩, ⟨-21493800, -9000⟩, ⟨-5772600, -12600⟩, ⟨9955800, -9000⟩,
    ⟨25677000, -12600⟩, ⟨41405400, -9000⟩, ⟨57731400, -12600⟩, ⟨73459800, -9000⟩,
    ⟨89181000, -12600⟩, ⟨104909400, -9000⟩, ⟨120630600, -12600⟩, ⟨136359000, -9000⟩,
    ⟨152080200, -12600⟩, ⟨167808600, -9000⟩, ⟨183529800, -12600⟩, ⟨199258200, -9000⟩,
    ⟨215584200, -12600⟩, ⟨230707800, -9000⟩, ⟨247033800, -12600⟩, ⟨262762200, -9000⟩,
    ⟨278483400, -12600⟩, ⟨294211800, -9000⟩, ⟨309933000, -12600⟩, ⟨325661400, -9000⟩,
    ⟨341382600, -12600⟩, ⟨357111000, -9000⟩, ⟨372832200, -12600⟩, ⟨388560600, -9000⟩,
    ⟨404886600, -12600⟩, ⟨420010200, -9000⟩, ⟨436336200, -12600⟩, ⟨452064600, -9000⟩,
    ⟨467785800, -12600⟩, ⟨483514200, -9000⟩, ⟨499235400, -12600⟩, ⟨514963800, -9000⟩,
    ⟨530685000, -12600⟩, ⟨544591860, -9000⟩, ⟨562127460, -12600⟩, ⟨576041460, -5400⟩,
    ⟨594178260, -12600⟩, ⟨607491060, -9000⟩, ⟨625631460, -12600⟩, ⟨638940660, -9000⟩,
    ⟨657081060, -12600⟩, ⟨670995060, -9000⟩, ⟨688530660, -12600⟩, ⟨702444660, -9000⟩,
    ⟨719980260, -12600⟩, ⟨733894260, -9000⟩, ⟨752034660, -12600⟩, ⟨765343860, -9000⟩,
    ⟨783484260, -12600⟩, ⟨796793460, -9000⟩, ⟨814933860, -12600⟩, ⟨828847860, -9000⟩,
    ⟨846383460, -12600⟩, ⟨860297460, -9000⟩, ⟨877833060, -12600⟩, ⟨891747060, -9000⟩,
    ⟨909282660, -12600⟩, ⟨923196660, -9000⟩, ⟨941337060, -12600⟩, ⟨954646260, -9000⟩,
    ⟨972786660, -12600⟩, ⟨986095860, -9000⟩, ⟨1004236260, -12600⟩, ⟨1018150260, -9000⟩,
    ⟨1035685860, -12600⟩, ⟨1049599860, -9000⟩, ⟨1067135460, -12600⟩, ⟨1081049460, -9000⟩,
    ⟨1099189860, -12600⟩, ⟨1112499060, -9000⟩, ⟨1130639460, -12600⟩, ⟨1143948660, -9000⟩,
    ⟨1162089060, -12600⟩, ⟨1173583860, -9000⟩, ⟨1194143460, -12600⟩, ⟨1205033460, -9000⟩,
    ⟨1225593060, -12600⟩, ⟨1236483060, -9000⟩, ⟨1257042660, -12600⟩, ⟨1268537460, -9000⟩,
    ⟨1289097060, -12600⟩, ⟨1299987060, -9000⟩, ⟨1320114600, -9000⟩]
  rule := .seasonal (-12600) (-9000) ⟨3, 2, 0, 7200⟩ ⟨11, 1, 0, 7200⟩

def saoPaulo : Zone where
  name := "America/Sao_Paulo"
  before := -11188
  changes := [
    ⟨-1767214412, -10800⟩, ⟨-1206957600, -7200⟩, ⟨-1191362400, -10800⟩, ⟨-1175374800, -7200⟩,
    ⟨-1159826400, -10800⟩, ⟨-633819600, -7200⟩, ⟨-622069200, -10800⟩, ⟨-602283600, -7200⟩,
    ⟨-591832800, -10800⟩, ⟨-570747600, -7200⟩, ⟨-560210400, -10800⟩, ⟨-539125200, -7200⟩,
    ⟨-531352800, -10800⟩, ⟨-195426000, -7200⟩, ⟨-184197600, -10800⟩, ⟨-155163600, -7200⟩,
    ⟨-150069600, -10800⟩, ⟨-128898000, -7200⟩, ⟨-121125600, -10800⟩, ⟨-99954000, -7200⟩,
    ⟨-89589600, -10800⟩, ⟨-68418000, -7200⟩, ⟨-57967200, -10800⟩, ⟨499748400, -7200⟩,
    ⟨511236000, -10800⟩, ⟨530593200, -7200⟩, ⟨540266400, -10800⟩, ⟨562129200, -7200⟩,
    ⟨571197600, -10800⟩, ⟨592974000, -7200⟩, ⟨602042400, -10800⟩, ⟨624423600, -7200⟩,
    ⟨634701600, -10800⟩, ⟨656478000, -7200⟩, ⟨666756000, -10800⟩, ⟨687927600, -7200⟩,
    ⟨697600800, -10800⟩, ⟨719982000, -7200⟩, ⟨728445600, -10800⟩, ⟨750826800, -7200⟩,
    ⟨761709600, -10800⟩, ⟨782276400, -7200⟩, ⟨793159200, -10800⟩, ⟨813726000, -7200⟩,
    ⟨824004000, -10800⟩, ⟨844570800, -7200⟩, ⟨856058400, -10800⟩, ⟨876106800, -7200⟩,
    ⟨888717600, -10800⟩, ⟨908074800, -7200⟩, ⟨919562400, -10800⟩, ⟨938919600, -7200⟩,
    ⟨951616800, -10800⟩, ⟨970974000, -7200⟩, ⟨982461600, -10800⟩, ⟨1003028400, -7200⟩,
    ⟨1013911200, -10800⟩, ⟨1036292400, -7200⟩, ⟨1045360800, -10800⟩, ⟨1066532400, -7200⟩,
    ⟨1076810400, -10800⟩, ⟨1099364400, -7200⟩, ⟨1108864800, -10800⟩, ⟨1129431600, -7200⟩,
    ⟨1140314400, -10800⟩, ⟨1162695600, -7200⟩, ⟨1172368800, -10800⟩, ⟨1192330800, -7200⟩,
    ⟨1203213600, -10800⟩, ⟨1224385200, -7200⟩, ⟨1234663200, -10800⟩, ⟨1255834800, -7200⟩,
    ⟨1266717600, -10800⟩, ⟨1287284400, -7200⟩, ⟨1298167200, -10800⟩, ⟨1318734000, -7200⟩,
    ⟨1330221600, -10800⟩, ⟨1350788400, -7200⟩, ⟨1361066400, -10800⟩, ⟨1382238000, -7200⟩,
    ⟨1392516000, -10800⟩, ⟨1413687600, -7200⟩, ⟨1424570400, -10800⟩, ⟨1445137200, -7200⟩,
    ⟨1456020000, -10800⟩, ⟨1476586800, -7200⟩, ⟨1487469600, -10800⟩, ⟨1508036400, -7200⟩,
    ⟨1518919200, -10800⟩, ⟨1541300400, -7200⟩, ⟨1550368800, -10800⟩]
  rule := .steady (-10800)

def nuuk : Zone where
  name := "America/Nuuk"
  before := -12416
  changes := [
    ⟨-1686083584, -10800⟩, ⟨323845200, -7200⟩, ⟨338950800, -10800⟩, ⟨354675600, -7200⟩,
    ⟨370400400, -10800⟩, ⟨386125200, -7200⟩, ⟨401850000, -10800⟩, ⟨417574800, -7200⟩,
    ⟨433299600, -10800⟩, ⟨449024400, -7200⟩, ⟨465354000, -10800⟩, ⟨481078800, -7200⟩,
    ⟨496803600, -10800⟩, ⟨512528400, -7200⟩, ⟨528253200, -10800⟩, ⟨543978000, -7200⟩,
    ⟨559702800, -10800⟩, ⟨575427600, -7200⟩, ⟨591152400, -10800⟩, ⟨606877200, -7200⟩,
    ⟨622602000, -10800⟩, ⟨638326800, -7200⟩, ⟨654656400, -10800⟩, ⟨670381200, -7200⟩,
    ⟨686106000, -10800⟩, ⟨701830800, -7200⟩, ⟨717555600, -10800⟩, ⟨733280400, -7200⟩,
    ⟨749005200, -10800⟩, ⟨764730000, -7200⟩, ⟨780454800, -10800⟩, ⟨796179600, -7200⟩,
    ⟨811904400, -10800⟩, ⟨828234000, -7200⟩, ⟨846378000, -10800⟩, ⟨859683600, -7200⟩,
    ⟨877827600, -10800⟩, ⟨891133200, -7200⟩, ⟨909277200, -10800⟩, ⟨922582800, -7200⟩,
    ⟨941331600, -10800⟩, ⟨954032400, -7200⟩, ⟨972781200, -10800⟩, ⟨985482000, -7200⟩,
    ⟨1004230800, -10800⟩, ⟨1017536400, -7200⟩, ⟨1035680400, -10800⟩, ⟨1048986000, -7200⟩,
    ⟨1067130000, -10800⟩, ⟨1080435600, -7200⟩, ⟨1099184400, -10800⟩, ⟨1111885200, -7200⟩,
    ⟨1130634000, -10800⟩, ⟨1143334800, -7200⟩, ⟨1162083600, -10800⟩, ⟨1174784400, -7200⟩,
    ⟨1193533200, -10800⟩, ⟨1206838800, -7200⟩, ⟨1224982800, -10800⟩, ⟨1238288400, -7200⟩,
    ⟨1256432400, -10800⟩, ⟨1269738000, -7200⟩, ⟨1288486800, -10800⟩, ⟨1301187600, -7200⟩,
    ⟨1319936400, -10800⟩, ⟨1332637200, -7200⟩, ⟨1351386000, -10800⟩, ⟨1364691600, -7200⟩,
    ⟨1382835600, -10800⟩, ⟨1396141200, -7200⟩, ⟨1414285200, -10800⟩, ⟨1427590800, -7200⟩,
    ⟨1445734800, -10800⟩, ⟨1459040400, -7200⟩, ⟨1477789200, -10800⟩, ⟨1490490000, -7200⟩,
    ⟨1509238800, -10800⟩, ⟨1521939600, -7200⟩, ⟨1540688400, -10800⟩, ⟨1553994000, -7200⟩,
    ⟨1572138000, -10800⟩, ⟨1585443600, -7200⟩, ⟨1603587600, -10800⟩, ⟨1616893200, -7200⟩,
    ⟨1635642000, -10800⟩, ⟨1648342800, -7200⟩, ⟨1667091600, -10800⟩, ⟨1679792400, -7200⟩,
    ⟨1698541200, -7200⟩]
  rule := .seasonal (-7200) (-3600) ⟨3, 5, 0, -3600⟩ ⟨10, 5, 0, 0⟩

def buenosAires : Zone where
  name := "America/Argentina/Buenos_Aires"
  before := -14028
  changes := [
    ⟨-2372097972, -15408⟩, ⟨-1567453392, -14400⟩, ⟨-1233432000, -10800⟩, ⟨-1222981200, -14400⟩,
    ⟨-1205956800, -10800⟩, ⟨-1194037200, -14400⟩, ⟨-1172865600, -10800⟩, ⟨-1162501200, -14400⟩,
    ⟨-1141329600, -10800⟩, ⟨-1130965200, -14400⟩, ⟨-1109793600, -10800⟩, ⟨-1099429200, -14400⟩,
    ⟨-1078257600, -10800⟩, ⟨-1067806800, -14400⟩, ⟨-1046635200, -10800⟩, ⟨-1036270800, -14400⟩,
    ⟨-1015099200, -10800⟩, ⟨-1004734800, -14400⟩, ⟨-983563200, -10800⟩, ⟨-973198800, -14400⟩,
    ⟨-952027200, -10800⟩, ⟨-941576400, -14400⟩, ⟨-931032000, -10800⟩, ⟨-900882000, -14400⟩,
    ⟨-890337600, -10800⟩, ⟨-833749200, -14400⟩, ⟨-827265600, -10800⟩, ⟨-752274000, -14400⟩,
    ⟨-733780800, -10800⟩, ⟨-197326800, -14400⟩, ⟨-190843200, -10800⟩, ⟨-184194000, -14400⟩,
    ⟨-164491200, -10800⟩, ⟨-152658000, -14400⟩, ⟨-132955200, -10800⟩, ⟨-121122000, -14400⟩,
    ⟨-101419200, -10800⟩, ⟨-86821200, -14400⟩, ⟨-71092800, -10800⟩, ⟨-54766800, -14400⟩,
    ⟨-39038400, -10800⟩, ⟨-23317200, -14400⟩, ⟨-7588800, -10800⟩, ⟨128142000, -7200⟩,
    ⟨136605600, -10800⟩, ⟨596948400, -7200⟩, ⟨605066400, -10800⟩, ⟨624423600, -7200⟩,
    ⟨636516000, -10800⟩, ⟨656478000, -7200⟩, ⟨667965600, -10800⟩, ⟨687927600, -7200⟩,
    ⟨699415200, -10800⟩, ⟨719377200, -7200⟩, ⟨731469600, -10800⟩, ⟨938919600, -10800⟩,
    ⟨952052400, -10800⟩, ⟨1198983600, -7200⟩, ⟨1205632800, -10800⟩, ⟨1224385200, -7200⟩,
    ⟨1237082400, -10800⟩]
  rule := .steady (-10800)

end TimeGate.Atlas
