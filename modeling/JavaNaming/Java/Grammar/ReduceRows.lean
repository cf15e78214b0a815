/-!
# Reduce rows

The distinct rows of the reduce table. A row lists reductions, each with the set of terminals it
may stand before: bit `t` of the set belongs to terminal `t`. Where several reductions fit one
terminal they are tried in the order of the row.
-/

namespace JavaNaming.Java.Grammar

/-- The distinct reduce rows. -/
def reduceRows : Array (List (Nat × Nat)) := #[
  [], [(0, 0x1)], [(1, 0x1)], [(2, 0xcfff3fff04f4ffe591f080302000301fff)],
  [(3, 0x6000000000000020000)], [(4, 0xcfff3fff04f4ffe791f080300000321ffe)],
  [(5, 0x6000000000000020000)], [(6, 0x202ac57fffffffa00000)],
  [(7, 0xcfff3fff04fcfff7bffffffff000f21fff)], [(8, 0xcfff3fff04fcfff7bffffffff000f21fff)],
  [(9, 0xcfff3fff04fcfff795fffffff000f21fff)], [(10, 0xcfff3fff04f4fff5bffffffff000f21ffe)],
  [(11, 0xcfff3fff04fcfff795fffffff000f21fff)], [(12, 0xcfff3fff04fcfff795fffffff000f21fff)],
  [(13, 0xcfff3fff04fcfff795fffffff000f21fff)], [(14, 0xcfff3fff04fcfff795fffffff000f21fff)],
  [(15, 0x2000c47ffff000800000), (16, 0xcfff3fff04fcffe791f080300000321ffe)],
  [(15, 0x2000c47ffff000800000), (16, 0xcfff3fff04fcffe591f080302000301fff)],
  [(6, 0xfff3ffb14e020353ecfffffffffe20002)], [(17, 0xcfff3fff04fcffe791f080302000321fff)],
  [(18, 0xcfff3fff04fcffe791f080302000321fff)], [(19, 0xcfff3fff04fcffe791f080302000321fff)],
  [(20, 0xcfff3fff04ffffe791f080302000321fff)], [(21, 0xcfff3fff04ffffe791f080302000321fff)],
  [(9, 0xcfff3fff04ffffe791f080302000321fff)], [(12, 0xcfff3fff04ffffe791f080302000321fff)],
  [(16, 0xcfff3fff04fcffe791f080302000321fff)], [(22, 0xcfff3fff04fcffe791f080302000321fff)],
  [(23, 0xcfff3fff04fcffe791f080302000321fff)], [(24, 0xcfff3fff04fcffe791f080302000321fff)],
  [(25, 0xcfff3fff04fcffe791f080302000321fff)], [(26, 0xcfff3fff04fcffe791f080302000321fff)],
  [(27, 0xcfff3fff04fcffe791f080302000321fff)], [(28, 0xcfff3fff04fcffe791f080302000321fff)],
  [(29, 0xcfff3fff04fcffe791f080302000321fff)], [(30, 0xcfff3fff04fcffe791f080302000321fff)],
  [(31, 0xcfff3fff04fcffe791f080302000321fff)], [(32, 0xcfff3fff04fcffe791f080302000321fff)],
  [(33, 0xcfff3fff04fcffe791f080302000321fff)], [(34, 0xcfff3fff04fcffe791f080302000321fff)],
  [(35, 0xcfff3fff04fcffe791f080302000321fff)], [(36, 0xcfff3fff04fcffe791f080302000321fff)],
  [(37, 0xcfff3fff04fcffe791f080302000321fff)], [(38, 0xcfff3fff04fcffe791f080302000321fff)],
  [(39, 0xcfff3fff04fcffe791f080302000321fff)], [(40, 0xcfff3fff04fcffe791f080302000321fff)],
  [(41, 0xcfff3fff04fcffe791f080302000321fff)], [(42, 0xcfff3fff04fcffe791f080302000321fff)],
  [(43, 0xcfff3fff04fcffe791f080302000321fff)], [(44, 0xcfff3fff04fcffe791f080302000321fff)],
  [(45, 0xcfff3fff04fcffe791f080302000321fff)], [(46, 0xcfff3fff04fcffe791f080302000321fff)],
  [(47, 0xcfff3fff04fcffe791f080302000321fff)], [(48, 0xcfff3fff04fcffe791f080302000321fff)],
  [(49, 0xcfff3fff04fcffe791f080302000321fff)], [(50, 0xcfff3fff04fcffe791f080302000321fff)],
  [(51, 0xcfff3fff04fcffe791f080302000321fff)], [(52, 0xcfff3fff04fcffe791f080302000321fff)],
  [(53, 0xcfff3fff04fcffe791f080302000321fff)], [(54, 0xcfff3fff04fcffe791f080302000321fff)],
  [(55, 0xcfff3fff04fcffe791f080302000321fff)], [(56, 0xcfff3fff04fcffe791f080302000321fff)],
  [(57, 0xcfff3fff04fcffe791f080302000321fff)], [(58, 0xcfff3fff04fcffe791f080302000321fff)],
  [(59, 0xcfff3fff04fcffe791f080302000321fff)], [(60, 0xcfff3fff04fcffe791f080302000321fff)],
  [(61, 0xcfff3fff04fcffe791f080302000321fff)], [(62, 0xcfff3fff04fcffe791f080302000321fff)],
  [(63, 0xcfff3fff04fcffe791f080302000321fff)], [(64, 0xcfff3fff04fcffe791f080302000321fff)],
  [(65, 0xcfff3fff04fcffe791f080302000321fff)], [(66, 0xcfff3fff04fcffe791f080302000321fff)],
  [(67, 0xcfff3fff04fcffe791f080302000321fff)], [(68, 0xcfff3fff04fcffe791f080302000321fff)],
  [(69, 0xcfff3fff04fcffe791f080302000321fff)], [(70, 0xcfff3fff04fcffe791f080302000321fff)],
  [(71, 0xcfff3fff04fcffe791f080302000321fff)], [(72, 0xcfff3fff04fcffe791f080302000321fff)],
  [(73, 0xcfff3fff04fcffe791f080302000321fff)], [(74, 0xcfff3fff04fcffe791f080302000321fff)],
  [(75, 0xcfff3fff04fcffe791f080302000321fff)], [(76, 0xcfff3fff04fcffe791f080302000321fff)],
  [(77, 0xcfff3fff04fcffe791f080302000321fff)], [(78, 0xcfff3fff04fcffe791f080302000321fff)],
  [(79, 0xcfff3fff04fcffe791f080302000321fff)], [(80, 0xcfff3fff04fcffe791f080302000321fff)],
  [(81, 0xcfff3fff04fcffe791f080302000321fff)], [(82, 0xcfff3fff04fcffe791f080302000321fff)],
  [(83, 0xcfff3fff04fcffe791f080302000321fff)], [(84, 0xcfff3fff04fcffe791f080302000321fff)],
  [(85, 0xcfff3fff04fcffe791f080302000321fff)], [(86, 0xcfff3fff04fcffe791f080302000321fff)],
  [(87, 0xcfff3fff04fcffe791f080302000321fff)], [(88, 0xcfff3fff04fcffe791f080302000321fff)],
  [(89, 0xcfff3fff04fcffe791f080302000321fff)], [(90, 0xcfff3fff04fcffe791f080302000321fff)],
  [(91, 0xcfff3fff04fcffe791f080302000321fff)], [(92, 0xcfff3fff04fcffe791f080302000321fff)],
  [(93, 0xcfff3fff04fcffe791f080302000321fff)], [(94, 0xcfff3fff04fcffe791f080302000321fff)],
  [(95, 0xcfff3fff04fcffe791f080302000321fff)], [(96, 0xcfff3fff04fcffe791f080302000321fff)],
  [(97, 0xcfff3fff04fcffe791f080302000321fff)], [(98, 0xcfff3fff04fcffe791f080302000321fff)],
  [(99, 0xcfff3fff04fcffe791f080302000321fff)], [(100, 0xcfff3fff04fcffe791f080302000321fff)],
  [(101, 0xcfff3fff04fcffe791f080302000321fff)], [(102, 0xcfff3fff04fcffe791f080302000321fff)],
  [(103, 0xcfff3fff04fcffe791f080302000321fff)], [(104, 0xcfff3fff04fcffe791f080302000321fff)],
  [(105, 0xcfff3fff04fcffe791f080302000321fff)], [(106, 0xcfff3fff04fcffe791f080302000321fff)],
  [(107, 0xcfff3fff04fcffe791f080302000321fff)], [(108, 0xcfff3fff04fcffe791f080302000321fff)],
  [(109, 0xcfff3fff04fcffe791f080302000321fff)], [(110, 0xcfff3fff04fcffe791f080302000321fff)],
  [(111, 0xcfff3fff04fcffe791f080302000321fff)], [(112, 0xcfff3fff04fcffe791f080302000321fff)],
  [(113, 0xcfff3fff04fcffe791f080302000321fff)], [(114, 0xcfff3fff04fcffe791f080302000321fff)],
  [(115, 0xcfff3fff04fcffe791f080302000321fff)], [(116, 0xcfff3fff04fcffe791f080302000321fff)],
  [(117, 0xcfff3fff04fcffe791f080302000321fff)], [(118, 0xcfff3fff04fcffe791f080302000321fff)],
  [(119, 0xcfff3fff04fcffe791f080302000321fff)], [(120, 0xcfff3fff04fcffe791f080302000321fff)],
  [(121, 0xcfff3fff04fcffe791f080302000321fff)], [(122, 0xcfff3fff04fcffe791f080302000321fff)],
  [(123, 0xcfff3fff04fcffe791f080302000321fff)], [(124, 0xcfff3fff04fcffe791f080302000321fff)],
  [(125, 0xcfff3fff04fcffe791f080302000321fff)], [(126, 0xcfff3fff04fcffe791f080302000321fff)],
  [(127, 0xcfff3fff04fcffe791f080302000321fff)], [(128, 0xcfff3fff04fcffe791f080302000321fff)],
  [(129, 0xcfff3fff04fcffe791f080302000321fff)], [(130, 0xcfff3fff04fcffe791f080302000321fff)],
  [(131, 0xcfff3fff04fcffe791f080302000321fff)], [(132, 0xcfff3fff04fcffe791f080302000321fff)],
  [(133, 0xcfff3fff04fcffe791f080302000321fff)], [(134, 0xcfff3fff04fcffe791f080302000321fff)],
  [(135, 0xcfff3fff04fcffe791f080302000321fff)], [(136, 0xcfff3fff04fcffe791f080302000321fff)],
  [(137, 0xcfff3fff04fcffe791f080302000321fff)], [(138, 0xcfff3fff04fcffe791f080302000321fff)],
  [(139, 0xcfff3fff04fcffe791f080302000321fff)], [(140, 0xcfff3fff04fcffe791f080302000321fff)],
  [(141, 0xcfff3fff04fcffe791f080302000321fff)], [(142, 0xcfff3fff04fcffe791f080302000321fff)],
  [(143, 0xcfff3fff04fcffe791f080302000321fff)], [(144, 0xcfff3fff04fcffe791f080302000321fff)],
  [(145, 0xcfff3fff04fcffe791f080302000321fff)], [(146, 0xcfff3fff04fcffe791f080302000321fff)],
  [(147, 0xcfff3fff04fcffe791f080302000321fff)], [(148, 0xcfff3fff04fcffe791f080302000321fff)],
  [(149, 0xcfff3fff04fcffe791f080302000321fff)], [(150, 0xcfff3fff04fcffe791f080302000321fff)],
  [(151, 0xcfff3fff04fcffe791f080302000321fff)], [(152, 0xcfff3fff04f4ffe791f080300000321ffe)],
  [(153, 0xcfff3fff04f4ffe591f080302000321fff)], [(154, 0xcfff3fff04f4ffe591f080302000321fff)],
  [(155, 0xcfff3fff04f4ffe591f080302000301fff)], [(156, 0xcfff3fff04f4ffe591f080302000321fff)],
  [(157, 0xcfff3fff04f4ffe591f080302000321fff)], [(155, 0xcfff3fff04f4ffe791f080300000321ffe)],
  [(158, 0xcfff3fff04f4ffe591f080300000321ffe)], [(159, 0xcfff3fff04f4ffe591f080300000321ffe)],
  [(160, 0xcfff3fff04f4ffe591f080300000321ffe)], [(161, 0xcfff3fff04f4ffe591f080300000321ffe)],
  [(6, 0x202ac57fffdfffa00000), (162, 0xfff3ff804202004100080002000000002)],
  [(6, 0x202ac57fffffffa00000), (162, 0xfff3ff804202004100080000000000002)],
  [(6, 0x202ac77fffffffe00000), (162, 0xff83ff004202004000080000000000002)],
  [(6, 0xff83ff0042020342ecffffff001e20002)], [(163, 0x20000)],
  [(164, 0xfff3ff804202025100080002000020002)], [(165, 0x20000)],
  [(166, 0x302ece7ffff000c20000), (167, 0x1100100e010082a0000000000000002)],
  [(166, 0x2ac47ffff000c00000), (167, 0x5001100100e010082a0000000000c00002)],
  [(166, 0x2ac47ffff000c00000), (167, 0x5001100100e010082a0000000000000002)],
  [(166, 0x102acf7ffff000800000), (167, 0x1100100e010002a0000000000000002)],
  [(168, 0xfff3ff804202024100080002000020002)],
  [(166, 0x102ace7ffff000800000), (167, 0x1100100e010002a0000000000000002)],
  [(166, 0x202ac47ffff000800000), (167, 0x1100100e010082a0000000000000002)],
  [(166, 0x2ac67ffff000c00000), (167, 0x1100100e010002a0000000000000002)],
  [(169, 0xffe3ff804202024100080000000020002)], [(166, 0x302ece7ffff000c20000)],
  [(170, 0x302ecf7fffffffc20000)], [(171, 0x302ecf7fffffffc20000)],
  [(172, 0x1100100c010302ccf7ffff000c20002)], [(173, 0x1100100e010302ecf7ffff000c20002)],
  [(174, 0x302ecf7fffffffc20000)],
  [(166, 0x102acf7ffff000800000), (167, 0x2000002a0000000000000000)],
  [(175, 0x1100100c0103004cf7ffff000c20002)], [(176, 0x1100100c0103004cf7ffff000c20002)],
  [(166, 0x102acf7ffff000800000)], [(166, 0x102ace7ffff000800000)], [(166, 0x2ac47ffff000c00000)],
  [(167, 0x1100100e0103006cf7ffff000c20002)],
  [(166, 0x2ac47ffff000c00000), (167, 0x2000002a0000000000000000)], [(166, 0x2ac67ffff000c00000)],
  [(177, 0x302ccf7ffff000c20000)], [(178, 0x302ccf7ffff000c20000)],
  [(179, 0x1100100e0103006cf7ffff000c20002)], [(180, 0x302ccf7ffff000c20000)],
  [(181, 0x302ccf7ffff000c20000)], [(182, 0x1100100e010300ecf7ffff000e20002)],
  [(183, 0x1100100e010300ecf7ffff000e20002)], [(184, 0x1100100e010300ecf7ffff000e20002)],
  [(185, 0x1100100e010300ecf7ffff000e20002)], [(186, 0x1100100e010302ecf7ffff000c20002)],
  [(187, 0x1100100e010300ecf7ffff000e20002)], [(188, 0x2000302ecf7ffff000c20000)],
  [(189, 0xfff3ffb14e02025180280002000200002)], [(190, 0x1100100e010300ecf7ffff000c20002)],
  [(43, 0xcff9100100e0102081f000300000301ffe)], [(191, 0x1100100e010300ecf7ffff000c20002)],
  [(192, 0x1100100e010300ecf7ffff000c20002)], [(65, 0xcff9100100e0102081f000300000301ffe)],
  [(193, 0x1100100e010300ecf7ffff000c20002)], [(194, 0x1100100e0103006cf7ffff000c20002)],
  [(195, 0x1100100e0103006cf7ffff000c20002)], [(196, 0x1100100e0103006cf7ffff000c20002)],
  [(197, 0x3004cf7ffff000c20000)], [(198, 0x3004cf7ffff000c20000)],
  [(166, 0x302ece7ffff000c20000), (167, 0x2000002a0000000000000000)],
  [(199, 0xfff3ffa04e02004100080002000000002)], [(200, 0x302ecf7ffff000c20000)],
  [(201, 0x302ecf7ffff000c20000)], [(202, 0x302ecf7ffff000c20000)],
  [(203, 0x302ecf7ffff000c20000)], [(204, 0x302ecf7ffff000c20000)],
  [(205, 0x302ecf7ffff000c20000)], [(206, 0x302ecf7ffff000c20000)],
  [(207, 0x302ecf7ffff000c20000)], [(208, 0x302ecf7ffff000c20000)],
  [(209, 0x302ecf7ffff000c20000)], [(210, 0x302ecf7ffff000c20000)],
  [(211, 0x302ecf7ffff000c20000)], [(170, 0x302ecf7ffff000c20000)],
  [(171, 0x302ecf7ffff000c20000)], [(212, 0xfff000800000000100000002000000002)],
  [(213, 0xfff3ff804202004100080002000000002)], [(184, 0xdff9d00100e010292b0201001000e00002)],
  [(214, 0x312ecf7ffff000c20000)], [(185, 0xdff9d00100e010292b0201001000e00002)],
  [(215, 0x312ecf7ffff000c20000)], [(187, 0xdff9d00100e010292b0201001000e00002)],
  [(216, 0x2000302ecf7ffff000c20000)], [(217, 0x312ecf7ffff000c20000)],
  [(218, 0x2000302ecf7ffff000c20000)], [(219, 0x302ecf7ffff000c20000)],
  [(166, 0x302ecf7ffff000c20000)], [(220, 0x302ecf7ffff000c20000)],
  [(15, 0x3004cf7ffff000c20000)], [(221, 0x302ecf7ffff000c20000)],
  [(222, 0xff8000200e00000000000000000000002), (162, 0xfff3ff804202004100080002000000002)],
  [(223, 0x302ecf7ffff000c20000)], [(224, 0x302ecf7ffff000c20000)],
  [(225, 0x302ecf7ffff000c20000)], [(226, 0x302ecf7ffff000c20000)],
  [(227, 0x302ecf7ffff000c20000)], [(228, 0xfff3ffa04e02004100080002000000002)],
  [(229, 0x302ecf7ffff000c20000)], [(230, 0x302ecf7ffff000c20000)],
  [(231, 0x302ecf7ffff000c20000)], [(232, 0x302ecf7ffff000c20000)],
  [(233, 0x3004cf7ffff000c20000)], [(234, 0x302ecf7ffff000c20000)],
  [(235, 0x302ecf7ffff000c20000)], [(236, 0x302ecf7ffff000c20000)],
  [(237, 0x302ecf7ffff000c20000)], [(238, 0x302ecf7ffff000c20000)],
  [(239, 0x302ecf7ffff000c20000)], [(240, 0xfff3ffa04e02004100080002000000002)],
  [(241, 0x302ecf7ffff000c20000)], [(242, 0x302ecf7ffff000c20000)],
  [(243, 0x3004cf7ffff000c20000)], [(244, 0x302ecf7ffff000c20000)],
  [(245, 0x302ecf7ffff000c20000)], [(246, 0x302ecf7ffff000c20000)],
  [(247, 0x302ecf7ffff000c20000)], [(248, 0x302ecf7ffff000c20000)],
  [(249, 0x302ecf7ffff000c20000)], [(250, 0x302ecf7ffff000c20000)],
  [(251, 0x302ecf7ffff000c20000)], [(252, 0x302ecf7ffff000c20000)],
  [(253, 0xfff3ff804202025100080002000020002)], [(254, 0xfff3ff804202025100080002000020002)],
  [(255, 0xfff3ff804202025100080002000020002)], [(256, 0xfff3ffa04e02004100080002000000002)],
  [(257, 0x302ecf7ffff000c20000)], [(258, 0x302ecf7ffff000c20000)],
  [(259, 0x302ecf7ffff000c20000)], [(260, 0x302ecf7ffff000c20000)],
  [(261, 0x302ecf7ffff000c20000)], [(262, 0x302ecf7ffff000c20000)],
  [(263, 0xfff3ff804202025100080002000020002)], [(264, 0xfff3ff804202025100080002000020002)],
  [(265, 0xfff3ff804202025100080002000020002)], [(266, 0xfff3ff804202025100080002000020002)],
  [(267, 0xfff3ffa04e02004100080002000000002)], [(268, 0x302ecf7ffff000c20000)],
  [(269, 0x302ecf7ffff000c20000)], [(270, 0x302ecf7ffff000c20000)],
  [(271, 0x302ecf7ffff000c20000)], [(272, 0xfff3ff804202025100080002000020002)],
  [(273, 0xfff3ff804202025100080002000020002)], [(274, 0xfff3ff804202025100080002000020002)],
  [(275, 0x302ecf7ffff000c20000)], [(276, 0x302ecf7ffff000c20000)],
  [(277, 0xfff3ff804202025100080002000020002)], [(174, 0x302ecf7ffff000c20000)],
  [(162, 0xfff3ff804202004100080002000000002)], [(278, 0xfff3ff804202024100080002000020002)],
  [(279, 0xfff3ff804202024100080002000020002)], [(172, 0x7001d00100c0102d280a01001001c00002)],
  [(173, 0x7001d00100e0102d2a0a01001001c00002)], [(280, 0x3004cf7ffff000c20000)],
  [(281, 0x3004cf7ffff000c20000)], [(282, 0x3004cf7ffff000c20000)],
  [(283, 0x30040f7ffff000c20000)], [(284, 0x3004cf7ffff000c20000)],
  [(233, 0x30040f7ffff000c20000)], [(285, 0x3004cf7ffff000c20000)],
  [(286, 0x3004cf7ffff000c20000)], [(287, 0x3004cf7ffff000c20000)],
  [(288, 0x3004cf7ffff000c20000)], [(289, 0x3004cf7ffff000c20000)],
  [(290, 0x3004cf7ffff000c20000)], [(291, 0x3004cf7ffff000c20000)],
  [(292, 0xffe3ff804202024100080000000020002)], [(293, 0xffe3ff804202024100080000000020002)],
  [(294, 0xffe3ff804202024100080000000020002)], [(295, 0xffe3ff804202024100080000000020002)],
  [(296, 0xffe3ff804202024100080000000020002)], [(297, 0xffe3ff804202024100080000000020002)],
  [(298, 0xffe3ff804202024100080000000020002)], [(299, 0xffe3ff804202024100080000000020002)],
  [(300, 0x30040a00000000420000)], [(282, 0x30040a00000000420000)],
  [(283, 0x30040e030c0000c20000)], [(283, 0x30040e430ff000c20000)],
  [(283, 0x30040e030f0000c20000)], [(283, 0x30040e000c0000420000)],
  [(283, 0x30040e00080000420000)], [(283, 0x30040e7b3ff000c20000)],
  [(283, 0x30040e010c0000420000)], [(283, 0x30040e030c0000420000)],
  [(283, 0x30040e7b0ff000c20000)], [(301, 0x30040a00000000420000)],
  [(214, 0x102acf7ffff000800000), (289, 0x10000900000000000000)], [(302, 0x900000000000000)],
  [(166, 0x202ac47ffff000800000)], [(212, 0xff8000000000000000000000000000002)],
  [(199, 0xff83ff004202004020080000000000002)], [(213, 0xff83ff004202004000080000000000002)],
  [(189, 0xff83ff0042020040a0080000000200002)], [(302, 0x800000000000000)],
  [(214, 0x2ac67ffff000c00000), (289, 0x200000000400000)],
  [(199, 0xff9100300e01028000600002000420002)], [(303, 0x20000200000000420000)],
  [(186, 0x7001d00100e0102d2a0a01001001c00002)], [(304, 0x10000a00000000400000)],
  [(15, 0x2000c47ffff000800000)], [(300, 0x10000b00000000000000)],
  [(282, 0x10000b00000000000000)], [(283, 0x10000f030c0000800000)],
  [(283, 0x10000f430ff000800000)], [(283, 0x10000f030f0000800000)],
  [(283, 0x10000f000c0000000000)], [(283, 0x10000f00080000000000)],
  [(283, 0x10000f7b3ff000800000)], [(283, 0x10000f010c0000000000)],
  [(283, 0x10000f030c0000000000)], [(283, 0x10000f7b0ff000800000)],
  [(304, 0x10000b00000000000000)], [(301, 0x10000b00000000000000)],
  [(6, 0xff9100300e01028080600002000620002)], [(189, 0xff9100300e01028080600002000620002)],
  [(305, 0x20000200000000400000)], [(228, 0xff83ff004202004020080000000000002)],
  [(240, 0xff83ff004202004020080000000000002)], [(256, 0xff83ff004202004020080000000000002)],
  [(267, 0xff83ff004202004020080000000000002)],
  [(15, 0x2000c47ffff000800000), (16, 0x80100000000000000000000)], [(176, 0x200000000000c00000)],
  [(167, 0x5001d00100e01029220201001000c00002)], [(306, 0xff9100300e01008000400002000000002)],
  [(190, 0x5001d00100e010292a0201003000e00002)], [(191, 0x5001d00100e010292a0201003000e00002)],
  [(192, 0x5001d00100e010292a0201003000e00002)], [(193, 0x5001d00100e010292a0201003000e00002)],
  [(307, 0x20000200000000000000)], [(308, 0x20000000000000400000)], [(303, 0x200000000400000)],
  [(309, 0x200000000020000)], [(310, 0x900000000000000)], [(311, 0x20000000000000400000)],
  [(312, 0x200000000400000)],
  [(222, 0xff8000000200000000000000000000002), (162, 0xff83ff004202004000080000000000002)],
  [(179, 0x5001d00100e01029220201001000c00002)], [(228, 0xff9100300e01028000600002000420002)],
  [(240, 0xff9100300e01028000600002000420002)], [(256, 0xff9100300e01028000600002000420002)],
  [(267, 0xff9100300e01028000600002000420002)], [(194, 0x5001d00100e010292a0201001000e00002)],
  [(195, 0x5001d00100e010292a0201001000e00002)], [(182, 0x5001d00100e010292a0201001000e00002)],
  [(183, 0x5001d00100e010292a0201001000e00002)], [(310, 0x800000000000000)],
  [(179, 0x5001d00100e010292a0201001000c00002)], [(176, 0x200000000000000000)],
  [(196, 0x5001d00100e010292a0201001000c00002)], [(179, 0x5001100100e010082a0000000000c00002)],
  [(166, 0x2a0000000000000000), (167, 0x1100100e010082a0000000000000002), (313, 0x20000000000000400000)],
  [(314, 0x1100100c01008000000000000000002)], [(175, 0xc00000000021200200001000c00000)],
  [(167, 0x1100100e01008020000000000000002)], [(315, 0x1100100c01008000001000000000002)],
  [(316, 0xff8c00000200001400000000000200002)], [(176, 0xc00000000021000200001000c00000)],
  [(317, 0xff8c00000200001400000000000200002)],
  [(303, 0x20000200000000420000), (222, 0xff8000000200000000000000000000002)],
  [(175, 0x200000000000c00000)], [(167, 0x1100100e01000020000000000000002)],
  [(318, 0x20000a00000001400000)], [(318, 0x20000200000001000000)],
  [(319, 0xe9000000000000000000020000)], [(179, 0x1100100e010002a0000000000000002)],
  [(177, 0x280000000000000000)], [(178, 0x280000000000000000)],
  [(179, 0x1100100e01000020000000000000002)], [(180, 0x280000000000000000)],
  [(181, 0x280000000000000000)], [(318, 0x200000000400000)],
  [(320, 0x2000000000000021000000000000000000)], [(321, 0x1100106c01000000000000000000002)],
  [(322, 0xdd000)], [(323, 0x1100100c01008000000000000000002)],
  [(176, 0xc00000000021200200001000c00000)], [(324, 0x1100106c01000000000000000000002)],
  [(325, 0x1100106c01000000000000000000002)], [(326, 0x2000400000200021020100000000000000)],
  [(327, 0x2000400000200021020100000000000000)], [(328, 0x2000400000200021020100000000000000)],
  [(329, 0x20000200000000020000)], [(330, 0x2000400000200021020100000000000000)],
  [(331, 0x6000000000000020000)], [(332, 0x20000200000000020000)],
  [(333, 0x2000400000200021020100000000000000)], [(334, 0xdd000)], [(335, 0xdd000)],
  [(336, 0x92800)], [(337, 0xe9000000000000000000020000)], [(338, 0x6000000000000020000)],
  [(339, 0x900000000000000)], [(340, 0xe9000000000000000000020000)],
  [(341, 0xe9000000000000000000020000)], [(342, 0xe9000000000000000000020000)],
  [(343, 0xe9000000000000000000020000)], [(344, 0xe9000000000000000000020000)],
  [(345, 0xe9000000000000000000020000)], [(346, 0xe9000000000000000000020000)],
  [(347, 0xe9000000000000000000020000)], [(348, 0xe9000000000000000000020000)],
  [(349, 0xe9000000000000000000020000)], [(350, 0xe9000000000000000000020000)], [(351, 0xdd000)],
  [(306, 0x200000020000000000000000)], [(352, 0x200001000000000)],
  [(166, 0x2a0000000000000000), (313, 0x20000000000000400000)], [(166, 0x2a0000000000000000)],
  [(353, 0x20000a00000001400000)], [(354, 0x200001000000000)], [(355, 0x20000200000000020000)],
  [(356, 0x800000000021000200000000000000)], [(357, 0x20000200000000020000)],
  [(339, 0x800000000000000)], [(358, 0x200001000000000)], [(359, 0x20000200000000400000)],
  [(360, 0x21000000000000000000)], [(361, 0x200001000000000)], [(362, 0x21000000000000000000)],
  [(351, 0x92800)], [(363, 0x200001000000000)], [(364, 0x800000000001000000000000000000)],
  [(359, 0x20000200000000000000)], [(365, 0x21000000000000000000)],
  [(366, 0x21000000000000000000)], [(367, 0x200001000000000)],
  [(368, 0x800000000001000000000000000000)], [(369, 0x20000200000000420000)],
  [(370, 0x21000000000000000000)], [(371, 0x200001000800000)], [(372, 0x20000200000000420000)],
  [(373, 0x20000200000000020000)], [(374, 0x20000200000000420000)],
  [(375, 0x20000200000000420000)], [(376, 0x20000000000000000000)],
  [(377, 0x20000000000000000000)], [(378, 0x200000000400000)], [(379, 0xc00000)],
  [(380, 0x4000000000000000000000000000000002)], [(381, 0x200000000400000)],
  [(382, 0x200001000000000)], [(383, 0xc00000000001000000000000000000)],
  [(384, 0x2000000000000021000000000000000000)], [(385, 0x20000200000000000000)],
  [(386, 0x200001000000000)], [(387, 0x10000900000000000000)], [(388, 0x20000000000000400000)],
  [(389, 0x20000200000000000000)], [(390, 0x20000200000000020000)],
  [(391, 0x10000900000000000000)], [(392, 0x6000000000000020000)], [(393, 0x200000000400000)],
  [(394, 0x20000200000000020000)], [(395, 0x20000200000000020000)], [(396, 0x200000000400000)],
  [(397, 0x200000000020000)], [(398, 0x20000200000000020000)], [(399, 0x200000000400000)],
  [(400, 0x20000200000000000000)], [(401, 0x20000200000000000000)],
  [(402, 0x20000200000000000000)], [(403, 0x20000200000000000000)], [(404, 0x200000000400000)],
  [(405, 0x200000000400000)], [(406, 0x200001000000000)], [(407, 0x21000000000000000000)],
  [(408, 0x200000000400000)], [(409, 0xc00000)], [(410, 0x200000000400000)],
  [(411, 0x200000000400000)], [(412, 0x200001000000000)],
  [(413, 0x800000000001000000000000000000)], [(414, 0x900000000000000)],
  [(415, 0x800000000001000000000000000000)], [(416, 0x21000000000000000000)],
  [(417, 0x20000200000000000000)], [(418, 0x200000000400000)], [(419, 0x200000000400000)],
  [(420, 0x200001000000000)], [(421, 0x200001000000000)],
  [(422, 0x2000000000000001000000000000000000)], [(423, 0x200000000400000)],
  [(424, 0x21000000000000000000)], [(425, 0x200000000400000)],
  [(426, 0x2000000000000001000000000000000000)], [(427, 0x200000000400000)],
  [(428, 0x200000000400000)], [(429, 0x900000000000000)], [(155, 0x100000000000000000000)],
  [(430, 0x100000000000000)], [(431, 0x100000000000000)], [(432, 0x1000000000000000000)],
  [(433, 0x1000000000000000000)], [(434, 0x20000000000000000000)], [(435, 0x1000000000000000000)],
  [(436, 0x1000000000000000000)], [(437, 0x400000)], [(438, 0x400000)],
  [(439, 0x20000000000000000000)]]

end JavaNaming.Java.Grammar
