import TimeGate.Zone.Rule

/-! African zones. A change is the second from which it holds, in UTC from the start of 1970, and the offset
in seconds; the rule holds from the last change on. -/

set_option autoImplicit false

namespace TimeGate.Atlas

def casablanca : Zone where
  name := "Africa/Casablanca"
  before := -1820
  changes := [
    ⟨-1773012580, 0⟩, ⟨-956361600, 3600⟩, ⟨-950490000, 0⟩, ⟨-942019200, 3600⟩, ⟨-761187600, 0⟩,
    ⟨-617241600, 3600⟩, ⟨-605149200, 0⟩, ⟨-81432000, 3600⟩, ⟨-71110800, 0⟩, ⟨141264000, 3600⟩,
    ⟨147222000, 0⟩, ⟨199756800, 3600⟩, ⟨207702000, 0⟩, ⟨231292800, 3600⟩, ⟨244249200, 0⟩,
    ⟨265507200, 3600⟩, ⟨271033200, 0⟩, ⟨448243200, 3600⟩, ⟨504918000, 0⟩, ⟨1212278400, 3600⟩,
    ⟨1220223600, 0⟩, ⟨1243814400, 3600⟩, ⟨1250809200, 0⟩, ⟨1272758400, 3600⟩, ⟨1281222000, 0⟩,
    ⟨1301788800, 3600⟩, ⟨1312066800, 0⟩, ⟨1335664800, 3600⟩, ⟨1342749600, 0⟩, ⟨1345428000, 3600⟩,
    ⟨1348970400, 0⟩, ⟨1367114400, 3600⟩, ⟨1373162400, 0⟩, ⟨1376100000, 3600⟩, ⟨1382839200, 0⟩,
    ⟨1396144800, 3600⟩, ⟨1403920800, 0⟩, ⟨1406944800, 3600⟩, ⟨1414288800, 0⟩, ⟨1427594400, 3600⟩,
    ⟨1434247200, 0⟩, ⟨1437271200, 3600⟩, ⟨1445738400, 0⟩, ⟨1459044000, 3600⟩, ⟨1465092000, 0⟩,
    ⟨1468116000, 3600⟩, ⟨1477792800, 0⟩, ⟨1490493600, 3600⟩, ⟨1495332000, 0⟩, ⟨1498960800, 3600⟩,
    ⟨1509242400, 0⟩, ⟨1521943200, 3600⟩, ⟨1526176800, 0⟩, ⟨1529200800, 3600⟩, ⟨1540692000, 3600⟩,
    ⟨1557021600, 0⟩, ⟨1560045600, 3600⟩, ⟨1587261600, 0⟩, ⟨1590890400, 3600⟩, ⟨1618106400, 0⟩,
    ⟨1621130400, 3600⟩, ⟨1648346400, 0⟩, ⟨1651975200, 3600⟩, ⟨1679191200, 0⟩, ⟨1682215200, 3600⟩,
    ⟨1710036000, 0⟩, ⟨1713060000, 3600⟩, ⟨1740276000, 0⟩, ⟨1743904800, 3600⟩, ⟨1771120800, 0⟩,
    ⟨1774144800, 3600⟩, ⟨1801965600, 0⟩, ⟨1804989600, 3600⟩, ⟨1832205600, 0⟩, ⟨1835834400, 3600⟩,
    ⟨1863050400, 0⟩, ⟨1866074400, 3600⟩, ⟨1893290400, 0⟩, ⟨1896919200, 3600⟩, ⟨1924135200, 0⟩,
    ⟨1927159200, 3600⟩, ⟨1954980000, 0⟩, ⟨1958004000, 3600⟩, ⟨1985220000, 0⟩, ⟨1988848800, 3600⟩,
    ⟨2016064800, 0⟩, ⟨2019088800, 3600⟩, ⟨2046304800, 0⟩, ⟨2049933600, 3600⟩, ⟨2077149600, 0⟩,
    ⟨2080778400, 3600⟩, ⟨2107994400, 0⟩, ⟨2111018400, 3600⟩, ⟨2138234400, 0⟩, ⟨2141863200, 3600⟩,
    ⟨2169079200, 0⟩, ⟨2172103200, 3600⟩, ⟨2199924000, 0⟩, ⟨2202948000, 3600⟩, ⟨2230164000, 0⟩,
    ⟨2233792800, 3600⟩, ⟨2261008800, 0⟩, ⟨2264032800, 3600⟩, ⟨2291248800, 0⟩, ⟨2294877600, 3600⟩,
    ⟨2322093600, 0⟩, ⟨2325722400, 3600⟩, ⟨2352938400, 0⟩, ⟨2355962400, 3600⟩, ⟨2383178400, 0⟩,
    ⟨2386807200, 3600⟩, ⟨2414023200, 0⟩, ⟨2417047200, 3600⟩, ⟨2444868000, 0⟩, ⟨2447892000, 3600⟩,
    ⟨2475108000, 0⟩, ⟨2478736800, 3600⟩, ⟨2505952800, 0⟩, ⟨2508976800, 3600⟩, ⟨2536192800, 0⟩,
    ⟨2539821600, 3600⟩, ⟨2567037600, 0⟩, ⟨2570666400, 3600⟩, ⟨2597882400, 0⟩, ⟨2600906400, 3600⟩,
    ⟨2628122400, 0⟩, ⟨2631751200, 3600⟩, ⟨2658967200, 0⟩, ⟨2661991200, 3600⟩, ⟨2689812000, 0⟩,
    ⟨2692836000, 3600⟩, ⟨2720052000, 0⟩, ⟨2723680800, 3600⟩, ⟨2750896800, 0⟩, ⟨2753920800, 3600⟩,
    ⟨2781136800, 0⟩, ⟨2784765600, 3600⟩, ⟨2811981600, 0⟩, ⟨2815610400, 3600⟩, ⟨2842826400, 0⟩,
    ⟨2845850400, 3600⟩, ⟨2873066400, 0⟩, ⟨2876695200, 3600⟩, ⟨2903911200, 0⟩, ⟨2906935200, 3600⟩,
    ⟨2934756000, 0⟩, ⟨2937780000, 3600⟩, ⟨2964996000, 0⟩, ⟨2968624800, 3600⟩, ⟨2995840800, 0⟩,
    ⟨2998864800, 3600⟩, ⟨3026080800, 0⟩, ⟨3029709600, 3600⟩, ⟨3056925600, 0⟩, ⟨3060554400, 3600⟩,
    ⟨3087770400, 0⟩, ⟨3090794400, 3600⟩, ⟨3118010400, 0⟩, ⟨3121639200, 3600⟩, ⟨3148855200, 0⟩,
    ⟨3151879200, 3600⟩, ⟨3179700000, 0⟩, ⟨3182724000, 3600⟩, ⟨3209940000, 0⟩, ⟨3213568800, 3600⟩,
    ⟨3240784800, 0⟩, ⟨3243808800, 3600⟩, ⟨3271024800, 0⟩, ⟨3274653600, 3600⟩, ⟨3301869600, 0⟩,
    ⟨3305498400, 3600⟩, ⟨3332714400, 0⟩, ⟨3335738400, 3600⟩, ⟨3362954400, 0⟩, ⟨3366583200, 3600⟩,
    ⟨3393799200, 0⟩, ⟨3396823200, 3600⟩, ⟨3424644000, 0⟩, ⟨3427668000, 3600⟩, ⟨3454884000, 0⟩,
    ⟨3458512800, 3600⟩, ⟨3485728800, 0⟩, ⟨3488752800, 3600⟩, ⟨3515968800, 0⟩, ⟨3519597600, 3600⟩,
    ⟨3546813600, 0⟩, ⟨3549837600, 3600⟩, ⟨3577658400, 0⟩, ⟨3580682400, 3600⟩, ⟨3607898400, 0⟩,
    ⟨3611527200, 3600⟩, ⟨3638743200, 0⟩, ⟨3641767200, 3600⟩, ⟨3669588000, 0⟩, ⟨3672612000, 3600⟩,
    ⟨3699828000, 0⟩, ⟨3703456800, 3600⟩]
  rule := .steady 3600

def monrovia : Zone where
  name := "Africa/Monrovia"
  before := -2588
  changes := [
    ⟨-2776979812, -2588⟩, ⟨-1604359012, -2670⟩, ⟨63593070, 0⟩]
  rule := .steady 0

end TimeGate.Atlas
