/-!
# State rows

The states of the parser. A row packs, from the low end, ten bits each for the shift row, the goto
row and the reduce row of the state, and then its scanning mode.
-/

namespace JavaNaming.Java.Grammar

/-- The states by number. -/
def stateRows : Array Nat := #[
  0x0, 0x100401, 0x200801, 0x300802, 0x400c03, 0x1004, 0x501405, 0x601403, 0x1806, 0x1407, 0x1c08,
  0x1408, 0x1409, 0x200a, 0x140b, 0x240c, 0x280d, 0x2c0d, 0x300d, 0x340d, 0x380d, 0x3c0d, 0x400d,
  0x440d, 0x480d, 0x4c0d, 0x500d, 0x540d, 0x580d, 0x5c0d, 0x600d, 0x640d, 0x680d, 0x6c0d, 0x700d,
  0x740d, 0x780d, 0x7c0d, 0x800d, 0x840d, 0x880d, 0x8c0d, 0x900d, 0x940d, 0x980d, 0x9c0d, 0xa00e,
  0xa40e, 0xa80e, 0xac0e, 0xb00e, 0xb40e, 0xb80e, 0xbc0e, 0xc00e, 0xc40e, 0xc80e, 0xcc0e, 0xd00e,
  0xd40e, 0xd80e, 0xdc0e, 0xe00e, 0xe40e, 0xe80e, 0xec0e, 0xf00e, 0xf40e, 0xf80e, 0xfc0e, 0x1000e,
  0x1040e, 0x1080e, 0x10c0e, 0x1100e, 0x1140e, 0x1180c, 0x11c0c, 0x1200c, 0x1240c, 0x1280c,
  0x12c0c, 0x1300c, 0x1340c, 0x1380c, 0x13c0c, 0x1400c, 0x1440c, 0x1480c, 0x14c0c, 0x1500c,
  0x1540c, 0x1580c, 0x15c0c, 0x1600c, 0x1640c, 0x1680c, 0x16c0c, 0x1700c, 0x1740c, 0x1780c,
  0x17c0c, 0x1800c, 0x1840c, 0x1880c, 0x18c0c, 0x4071900f, 0x80800000, 0x80900000, 0x80a00000,
  0x80b00000, 0x80c00000, 0x80d00000, 0x80e00000, 0x80f00000, 0xc0019410, 0xc0019811, 0xc0019c10,
  0xc001a012, 0xc001a413, 0xc001a814, 0x81000000, 0x81100000, 0x4001ac15, 0x4001b016, 0x4001b417,
  0x4001b818, 0x4001bc19, 0x4001c01a, 0x4001c41b, 0x4001c81c, 0x4001c81d, 0x4001c41e, 0x1200000,
  0x1200000, 0x4001cc1f, 0x4001d020, 0x4001d421, 0x4001d422, 0x4001d820, 0x4001c820, 0x4001dc20,
  0x4001e023, 0x4001e424, 0x4001e825, 0x4001d425, 0x4001ec26, 0x4001f027, 0x4001f428, 0x4001f829,
  0x131fc2a, 0x142002a, 0x4002042b, 0x4002082c, 0x40020c2d, 0x152102a, 0x4002142e, 0x4002182f,
  0x40021c30, 0x40022031, 0x40022432, 0x40022833, 0x40022c34, 0x40023035, 0x40023436, 0x40023837,
  0x4001f838, 0x40020c39, 0x40023c3a, 0x4002403b, 0x4002443c, 0x4002483d, 0x40024c3e, 0x4002503f,
  0x40025440, 0x40025841, 0x40025c42, 0x40026043, 0x40026444, 0x40026845, 0x40026c46, 0x40027047,
  0x40027448, 0x40027849, 0x40027c4a, 0x4002804b, 0x4002844c, 0x4002884d, 0x40028c4e, 0x4002904f,
  0x40029450, 0x40029851, 0x40029c0f, 0x4002a00f, 0x4002a40f, 0x4002a80f, 0x4002ac0f, 0x4002b00f,
  0x4002b40f, 0x4002b80f, 0x4002bc0f, 0x4002c00f, 0x4002c40f, 0x4002c80f, 0x4002cc0f, 0x4002d00f,
  0x4002d40f, 0x4002d80f, 0x4002dc0f, 0x4002e00f, 0x4002e40f, 0x4002e80f, 0x4002ec0f, 0x162f052,
  0x4002f40f, 0x4002f80f, 0x4002fc0f, 0x4001f80f, 0x4003000f, 0x4003040f, 0x40020c0f, 0x40030853,
  0x40030c0f, 0x4003100f, 0x4003140f, 0x40031853, 0x40031c53, 0x40032053, 0x40032453, 0x40032853,
  0x40032c53, 0x40033053, 0x40033453, 0x40033853, 0x40033c53, 0x40034053, 0x40034453, 0x40034853,
  0x40034c53, 0x4003500f, 0x40035453, 0x40035853, 0x40035c0f, 0x4003600f, 0x4003640f, 0x4003680f,
  0x40036c0f, 0x4003700f, 0x4003740f, 0xc0037854, 0xc0037855, 0x1700000, 0x1800000, 0x1900000,
  0xc0037c56, 0xc0037856, 0x1a00000, 0x1b00000, 0x1c00000, 0x1d00000, 0x1e00000, 0x1f00000,
  0x2000000, 0x2100000, 0x2200000, 0x2300000, 0x2400000, 0x2500000, 0x2600000, 0x2700000,
  0x2800000, 0x1300000, 0x2900000, 0x2a00000, 0x2b00000, 0x2c00000, 0x2d00000, 0x2e00000,
  0x2f00000, 0x3000000, 0x3100000, 0x3200000, 0x3300000, 0x3400000, 0x3500000, 0x3600000,
  0x1500000, 0x3700000, 0x3800000, 0x3900000, 0x3a00000, 0x3b00000, 0x3c00000, 0x3d00000,
  0x3e00000, 0x3f00000, 0x4000000, 0x4100000, 0x4200000, 0x4300000, 0x4400000, 0x4500000,
  0x4600000, 0x4700000, 0x4800000, 0x4900000, 0x4a00000, 0x4b00000, 0x4c00000, 0x4d00000,
  0x4e00000, 0x4f00000, 0x5000000, 0x5100000, 0x5200000, 0x5300000, 0x5400000, 0x5500000,
  0x5600000, 0x5700000, 0x5800000, 0x5900000, 0x5a00000, 0x5b00000, 0x5c00000, 0x5d00000,
  0x5e00000, 0x5f00000, 0x6000000, 0x6100000, 0x6200000, 0x6300000, 0x6400000, 0x6500000,
  0x6600000, 0x6700000, 0x6800000, 0x6900000, 0x6a00000, 0x6b00000, 0x6c00000, 0x6d00000,
  0x6e00000, 0x6f00000, 0x7000000, 0x7100000, 0x7200000, 0x7300000, 0x7400000, 0x7500000,
  0x7600000, 0x7700000, 0x7800000, 0x7900000, 0x7a00000, 0x7b00000, 0x7c00000, 0x7d00000,
  0x7e00000, 0x7f00000, 0x8000000, 0x8100000, 0x8200000, 0x8300000, 0x8400000, 0x8500000,
  0x8600000, 0x8700000, 0x8800000, 0x8900000, 0x8a00000, 0x8b00000, 0x8c00000, 0x8d00000,
  0x8e00000, 0x8f00000, 0x9000000, 0x9100000, 0x9200000, 0x9300000, 0x9400000, 0x9500000,
  0x9600000, 0x9700000, 0x9800000, 0x9900000, 0x9a00000, 0x9b00000, 0x9c00000, 0x9d38057,
  0x9e00000, 0x9f00000, 0xa000058, 0xa100000, 0xa200000, 0xa300059, 0x9d00000, 0xa400000,
  0xa500000, 0xa600000, 0xa700000, 0xa800000, 0xa900000, 0xcaa00000, 0x4003845a, 0x4003885b,
  0x10ab00000, 0x10ab00000, 0x38c5c, 0x3905d, 0xac3945e, 0xad3905f, 0xae39060, 0x4af39861,
  0x4b039c62, 0x4b139c62, 0x3a063, 0x3a464, 0x4b23a865, 0xb33a466, 0x4b43a867, 0x4b539868,
  0x4b63a869, 0x4b53986a, 0x4b53986b, 0x4073ac6c, 0x3b06d, 0x3b46e, 0xb73b46f, 0x4b83b870,
  0x4b93bc71, 0x4ba3c071, 0x14bb3c472, 0x14bc3c473, 0x4b900000, 0x4bd00000, 0x4ba00000,
  0x4be39874, 0x14bf3c872, 0x14c03c872, 0x4b800075, 0x4c13cc76, 0x4c23cc77, 0x4c33d078,
  0x14c43d479, 0x4c53987a, 0x4c13b87b, 0x4c63cc7c, 0x14c73d87d, 0x14c83dc7d, 0x14c93e07e,
  0x14ca3e47d, 0x14cb3e87d, 0x4070007f, 0x40700080, 0x4c33b881, 0x14cc00000, 0x14c43ec82,
  0x14cd00000, 0x14ce00000, 0x14bc00000, 0x14cf00000, 0x14d000000, 0x14d100000, 0x14c93f083,
  0x4c100084, 0xc003f485, 0x14d23f886, 0xd300000, 0x14d400000, 0x4d500000, 0x14d600000,
  0x14d700000, 0x4d800000, 0x14d900000, 0x14c900087, 0x14da00000, 0x14db00000, 0x14c900000,
  0x14dc00000, 0xc003fc88, 0x14dd40089, 0x14de4048a, 0xc004088b, 0xc0040c8b, 0x14df3988c,
  0x14c000000, 0xe04108d, 0x14e14148e, 0x14e24188e, 0x14e341c8e, 0x14e44208e, 0x14e54248e,
  0x14e64288e, 0x14b83b88f, 0x14e742c8e, 0x14e84308e, 0x14e94348e, 0x14ea4388e, 0x14eb43c8e,
  0x14ec4408e, 0x14ed3bc71, 0x14ee3c071, 0xef44490, 0xf044491, 0x18f100000, 0x14f200000,
  0x18f300000, 0x14f400000, 0x18f500000, 0x14f600000, 0x14f700000, 0x14f800000, 0x14f900000,
  0x14fa00000, 0x14fb00000, 0x14fc00092, 0x14fd00000, 0xfe00000, 0x14ff00000, 0x150000000,
  0x150100000, 0x150200000, 0x150300000, 0x10400000, 0x150500000, 0x150600000, 0x150700000,
  0x150800000, 0x150900092, 0x150a00000, 0x150b00000, 0x150c00000, 0x150d00000, 0x150e00000,
  0x150f00000, 0x11000000, 0x151100000, 0x151200000, 0x151300093, 0x151400000, 0x151500000,
  0x151600000, 0x151700000, 0x151800000, 0x151900000, 0x151a00000, 0x151b00000, 0x151c00000,
  0x11d00000, 0x11e00000, 0x11f00000, 0x12000000, 0x152100000, 0x152200000, 0x152300000,
  0x152400000, 0x152500000, 0x152600000, 0x12700000, 0x12800000, 0x12900000, 0x12800000,
  0x12a00000, 0x12b00000, 0x152c00000, 0x152d00000, 0x152e00000, 0x152f00000, 0x13000000,
  0x13100000, 0x13200000, 0x153300000, 0x153400000, 0x13500000, 0x14ed00000, 0x153600000,
  0x14be39894, 0x14ee00000, 0x13744895, 0x13744c96, 0x13800000, 0x13900000, 0x40045097,
  0x193a45498, 0x193b45499, 0x14c13b89a, 0x14fc00000, 0x153c00000, 0x153d00000, 0x153d00000,
  0x153e00000, 0x153f0009b, 0x4004589c, 0x154000000, 0x15410009b, 0x150900000, 0x154200000,
  0x154300000, 0x154400000, 0x151300000, 0x154500000, 0x154600000, 0x154700000, 0x154800000,
  0x14900000, 0x14a00000, 0x14b00000, 0x14c00000, 0x14d00000, 0x14e00000, 0x14f00000, 0x15000000,
  0x15510009d, 0x15520009d, 0x15530009e, 0x15540009f, 0x1555000a0, 0x1556000a1, 0x1557000a2,
  0x1558000a3, 0x1559000a4, 0x155a000a5, 0x155b000a6, 0x155c0009d, 0x155d00000, 0x155e45ca7,
  0x155f46071, 0xd60464a8, 0xd61468a9, 0xd62464aa, 0xd6300000, 0x156446cab, 0x156500000,
  0x566470ac, 0x193b00000, 0x15670009d, 0x400474ad, 0x196800000, 0x15690009d, 0x156a000ae,
  0x156b000af, 0x156c000af, 0x156d000b0, 0x156e000b1, 0x156f000b2, 0x1570000b3, 0x1571000b4,
  0x1572000b5, 0x1573000b6, 0x1574000b7, 0x1575000b8, 0x1576000af, 0x1577000af, 0x57800000,
  0x57800000, 0x57900000, 0x1800478b9, 0x140047cba, 0xc00480bb, 0x1400484bc, 0x157a0009d,
  0x1400488bd, 0x140048cbe, 0x1400490bf, 0x1400494c0, 0x1400498c1, 0x140049cc2, 0x4004a0c3,
  0x14004a4c4, 0x14004a8c5, 0x14004acc6, 0xd7b00000, 0xd7c00000, 0xd7d00000, 0xd7e00000,
  0x157f00000, 0x18004b0c7, 0x14004b4c8, 0x14004b8c9, 0x14004bcca, 0x14004c0cb, 0x14004c4cc,
  0x14004c8cd, 0x14004ccce, 0x14004d0cf, 0x14004d4d0, 0x14004d8d1, 0x14004dcd2, 0x14004e0d3,
  0x14004e4d4, 0x14004e8d5, 0x14004ecd6, 0x14004f0d7, 0x14004f4d8, 0x14004f8d9, 0x5804fcda,
  0x1400000db, 0x1981500dc, 0x582504dd, 0x198300000, 0x198400000, 0x400508de, 0x1c0050cdf,
  0x198500000, 0x198600000, 0x15870009d, 0xc00510e0, 0x15880009d, 0x15890009d, 0xc00514e1,
  0x158a0009d, 0x158b000af, 0x158c0009d, 0x158d0009d, 0xd8e00000, 0x198f518e2, 0x59000000,
  0x59100000, 0x59200000, 0x59300000, 0x199400000, 0x199500000, 0x1400000e3, 0x1c0051ce4,
  0x400520e5, 0x1400000e6, 0x1400000e7, 0x1400000e8, 0x1400000e9, 0x199600000, 0x199700000,
  0x1400000ea, 0x400524eb, 0x400528eb, 0x40052ceb, 0x1400000ec, 0x1400000ed, 0x1400000ee,
  0x1400000ef, 0x1400000f0, 0x1400000f1, 0x1c00530e4, 0x1400000f2, 0x1400000f3, 0x1400000f4,
  0x1400000f5, 0x1400000f6, 0x15980009d, 0x1400000f7, 0x1400000f8, 0x1400000f9, 0x1400000fa,
  0x1400000fb, 0x1400000fc, 0x1400000fd, 0x1400000fe, 0x1400000ff, 0x140000100, 0x140000101,
  0x140000102, 0x140000103, 0x140000104, 0x140000105, 0x199900000, 0x59a53506, 0x199b00000,
  0x400538eb, 0x40053ceb, 0x400540eb, 0x400544eb, 0x400548eb, 0x40054ceb, 0x400550eb, 0x198f00107,
  0x59a55508, 0x40052109, 0x59a55908, 0xc0055d0a, 0x59a56108, 0x59a56508, 0x4005690b, 0x40056ceb,
  0x400570eb, 0x400520eb, 0x4005750c, 0x1c005790d, 0x40057d0e, 0x400580eb, 0x4005850f, 0x40056d10,
  0x4005890e, 0x4004fd11, 0x40058ceb, 0x4005910e, 0x40059512, 0x4005990e, 0x40059d0e, 0x4005a113,
  0x4005a514, 0x4005a915, 0x4005ad16, 0x59a5b108, 0x4005b516, 0x1c005b917, 0x4005bd18, 0x4005c119,
  0x4005c516, 0x4005c916, 0x4005cd1a, 0x4005d11b, 0x4005d51c, 0x4005d91d, 0x4005dd1e, 0x4005e11f,
  0x4005e520, 0x4005e921, 0x4005ed22, 0x59c518e2, 0x59d39923, 0x4005f116, 0x59a5f524, 0x59e5f925,
  0x59a5fd26, 0x40060127, 0x199f60498, 0x40060927, 0x5a060d28, 0x5a061128, 0x40061529, 0x5a160498,
  0x59c00107, 0x40061929, 0x40061d2a, 0x5a200000, 0x19a360498, 0x40062129, 0x40062529, 0x4006292a,
  0x40062d2a, 0x5a400000, 0x4006312a, 0x4005fd2b, 0x40063529, 0x40063929, 0x40063d29, 0x4006412c,
  0x4006452d, 0x4006492c, 0x40064d2d, 0x5a500000, 0x4006512c, 0x4006552d, 0x4006592c, 0x40065d2d,
  0x5a66612e, 0x5a76652f, 0x5a766930, 0x40066d31, 0x5a867098, 0x5a967532, 0x40067931, 0x40067d33,
  0x40068134, 0x40068535, 0x40068936, 0x5aa68537, 0x5ab3e138, 0x40068d31, 0x40069131, 0x40066d39,
  0x4006953a, 0x40067939, 0x5a96713b, 0x5a96713c, 0x4006993d, 0x5ac69d3e, 0x5ad6a13e, 0x5ae3e138,
  0x5af6a53e, 0x5b06a93e, 0x40068d39, 0x40069139, 0x5b16713f, 0x5b26ac98, 0x4006b140, 0x4006b541,
  0x4006612e, 0x5b36b942, 0x4006bd43, 0x4006c144, 0x4006c545, 0x20006c946, 0x4006cd47,
  0x20006d148, 0x59a60549, 0x4006d54a, 0x21b46d14b, 0x4006d94a, 0x4006dd40, 0x4006e140,
  0x5b56e54c, 0x5a16e54d, 0x4006e94e, 0x4006ed4f, 0x19b600000, 0x4006f150, 0x4006f551, 0x4006f952,
  0x4006fd53, 0x40070154, 0x40070555, 0x40070956, 0x40070d57, 0x40071158, 0x40071559, 0x5b700000,
  0x5b800000, 0x4007195a, 0x40071d5b, 0x4007215c, 0x4007255d, 0x4007295e, 0x40072d5f, 0x40073160,
  0x40073561, 0x40073962, 0x40073d63, 0x40074164, 0x40072565, 0x40074562, 0x40074964, 0x40074d66,
  0x40075167, 0x5b900000, 0x5ba00000, 0x40075567, 0x5bb00000, 0x40075968, 0x1bc75d69, 0x5bd00000,
  0x5be75857, 0x1bf76169, 0x5c000000, 0x24007656a, 0x24007696b, 0x21c100000, 0x21c200000,
  0x4005056c, 0x40076d6d, 0x4007716e, 0x4007756f, 0x25c376970, 0x40077171, 0x40077972, 0x40077d73,
  0x40050574, 0x40050575, 0x40078172, 0x40078576, 0x5c400000, 0x40078972, 0x40078d73, 0x40077177,
  0x5c578578, 0x40079172, 0x5c679579, 0x5c700000, 0x5c800000, 0x5c900000, 0x5ca00000, 0x5cb00000,
  0x5cb00000, 0x5cb00000, 0x5cc00000, 0x5cd00000, 0x5ce00000, 0x5cf00000, 0x5d000000, 0x5d100000,
  0x21d200000, 0x4007997a, 0x40079d7b, 0x5d37717c, 0x4005057d, 0x4005057e, 0x4007717f, 0x40077180,
  0x4007a02a, 0x19d47a581, 0x7a923, 0x7ad82, 0x1d500000, 0x1d63b871, 0x1d700000, 0x19d87b181,
  0x7b523, 0x7b982, 0x7bd23, 0x7c182, 0x7c583, 0x7c923, 0x7cd82, 0x7d123, 0x7d582, 0x1d97d88e,
  0x7dd84, 0x5697e185, 0x7e523, 0x7e982, 0x5da7ed86, 0x1db7f08e, 0x5767f587, 0x5dc7f988, 0x7fd89,
  0x8018a, 0x19dd8058b, 0x4008098c, 0x80d8d, 0x4008118e, 0x1de0018f, 0x5df81590, 0x19e08198b,
  0x40081d91, 0x40082192, 0x40082593, 0x4008298c, 0x82d8d, 0x5e183190, 0x25e200000, 0x19e383594,
  0x40083995, 0x5e483d96, 0x40084191, 0x40084591, 0x1e500197, 0x40084992, 0x40084d93, 0x40085191,
  0x40085592, 0x40085993, 0x5e685d90, 0x1e786196, 0x19e886594, 0x40086995, 0x5e97ed96, 0x40086d91,
  0x55e87198, 0x1e500199, 0x1ea00000, 0x40087591, 0x40087991, 0x40087d92, 0x40088193, 0x1eb7ed96,
  0x19ec8659a, 0x4619b, 0x5da00000, 0x1ed00000, 0x1ee8859c, 0x40088991, 0x1ef00000, 0x88d9d,
  0x8919e, 0x8959f, 0x1f000000, 0x899a0, 0x1e5001a1, 0x1e5001a2, 0x1e5001a3, 0x1e5001a4, 0x89da5,
  0x8a1a6, 0x18008a5a7, 0x8a9a8, 0x8ada9, 0x1f18b1aa, 0x8b5ab, 0x8b9ac, 0x4008bdad, 0x8c1ae,
  0x18008c5af, 0x18008c9b0, 0x8cdb1, 0x92, 0x8d1b2, 0x8d5a8, 0x4008d9b3, 0x1f28ddaa, 0x1f38b5b4,
  0x1f48b9b5, 0x5f58bdb6, 0x1f68c1b7, 0x8e1b8, 0x4008bdb9, 0x19f78c5ba, 0x18008e5bb, 0x8e9b1,
  0x8edb1, 0x5f800000, 0x8f1bc, 0x8f5bd, 0x8f9be, 0x4008fdb3, 0x901bf, 0x7e1c0, 0x905b1,
  0x5f900000, 0x1fa8ddc1, 0x17a00000, 0x909a8, 0x8c1c2, 0x19fb8e5c3, 0x489c4, 0x90db1, 0x5fc00000,
  0x1fd8f1c5, 0x1fe8f5c6, 0x911c7, 0x915c8, 0x400001c9, 0x400001ca, 0x1ff00000, 0x919cb, 0x91db1,
  0x19ec00000, 0x921cc, 0x60000000, 0x60100000, 0x925cd, 0x925ce, 0x929cf, 0x202915d0, 0x20300000,
  0x1ee00000, 0x20400000, 0x92dd1, 0x18a921d2, 0x205925d3, 0x925d4, 0x925d5, 0x925d6, 0x206929d7,
  0x20700000, 0x20892dd8, 0x931d9, 0x925da, 0x925db, 0x935dc, 0x935dd, 0x939de, 0x40093ddf,
  0x925e0, 0x209001e1, 0x20a935e2, 0x20b001e1, 0x20c939e3, 0x400941e4, 0x1800945e5, 0x18008e5e6,
  0x949e7, 0x564871e8, 0x915e9, 0x94dea, 0x915eb, 0x8b9ec, 0x925ed, 0x925ee, 0x925ef, 0x925f0,
  0x925f1, 0x925f2, 0x925f3, 0x925f4, 0x925f5, 0x925f6, 0x925f7, 0x925f8, 0x925f9, 0x925fa,
  0x925fb, 0x925fc, 0x8f5fd, 0x8f5fe, 0x95095, 0x95495, 0x400001ff, 0x40000200, 0x95895, 0x201,
  0x202, 0x95e03, 0x96096, 0x96604, 0x205, 0x206, 0x96a07, 0x20d00000, 0x20e00000, 0x1a0f00000,
  0x96e08, 0x97208, 0x8cc71, 0x9748e, 0x97895, 0x97c96, 0x209, 0x9820a, 0x9860b, 0x98a0c,
  0x4000020d, 0x3e20e, 0x98e07, 0x9920b, 0x21000000, 0x20f, 0x1f300000, 0x21100000, 0x21200000,
  0x21300000, 0x5f500000, 0x21400000, 0x1f600000, 0x19f700000, 0x1a1500000, 0x19d800000, 0x8e871,
  0x99608, 0x99a08, 0x8ec71, 0x61600000, 0x99c8e, 0x9a08e, 0x9a48e, 0x21700000, 0x210, 0x9a88e,
  0x61800000, 0x9ae0c, 0x9b20c, 0x9b471, 0x90471, 0x9b88e, 0x9be0a, 0x9c20b, 0x9c60c, 0x21900000,
  0x21a00000, 0x21b00000, 0x21c00000, 0x1a1d00000, 0x19fb00000, 0x1a1e00000, 0x90c71, 0x61f00000,
  0x9ca11, 0x9cc8e, 0x9d08e, 0x9d48e, 0x1fd00000, 0x212, 0x213, 0x40000214, 0x9d88e, 0x9de0c,
  0x22000000, 0x91c71, 0x9e08e, 0x9e48e, 0x9e88e, 0x9ec8e, 0x9f20c, 0x9f60c, 0x22100000,
  0x22200000, 0x9fa11, 0x62300000, 0x40000215, 0x9fc8e, 0x1c600000, 0xa0204, 0x22400000,
  0x20200000, 0x216, 0x217, 0x218, 0xa0471, 0x22500000, 0xa088e, 0xa0c8e, 0xa108e, 0xa148e,
  0xa1a0c, 0x18a00000, 0xa1c71, 0x22600000, 0x20600000, 0x20800000, 0xa208e, 0xa2471, 0x219,
  0xa2895, 0xa2c95, 0xa3095, 0xa3495, 0x6270021a, 0x4000021b, 0x21c, 0x4000021d, 0x4000021e,
  0x4000021f, 0x0, 0x220, 0x221, 0x40000222, 0x223, 0x224, 0x40000225, 0x40000226, 0x40000227,
  0x40000228, 0x40000229, 0x22a, 0x4000022b, 0x22c, 0x4000022d, 0x22800000, 0x22e, 0x4000022f,
  0x230, 0x231, 0x232, 0x22900000, 0x233, 0x40000080, 0x22a00000, 0x234, 0x22b00000, 0x235, 0x236,
  0x22c00000, 0x237, 0x238, 0x40000239, 0x23a, 0x23b, 0x23c, 0x23d, 0x22d00000, 0x23e, 0x23f,
  0x240, 0x241, 0x242, 0x243, 0x244, 0x22e00000, 0x22f00000, 0x245, 0x246, 0x247, 0x248, 0x249,
  0x23000000, 0x24a, 0x24b, 0x24c, 0x24d, 0x24e, 0x24f, 0x23100000, 0x250, 0x251, 0x252, 0x253,
  0x254, 0x255, 0x40000256, 0x257, 0x258, 0x259, 0x25a, 0x4000025b, 0x25c, 0x25d, 0x25e]

/-- The state in which a text with nothing left to read is accepted. -/
def acceptingState : Nat := 1311

/-- The terminals that error recovery can skip or resume at. -/
def recoverable : Nat := 0xffffffffffffffffffffffffffffff1fff

end JavaNaming.Java.Grammar
