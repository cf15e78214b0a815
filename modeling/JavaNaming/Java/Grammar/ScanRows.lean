/-!
# Scanner rows

The finite automaton that reads tokens. Characters fall into classes, and a row of the automaton
packs nine bits for each class: zero where the automaton stops, else twice the successor of the next
state's number, plus one if the character is skipped before the token starts.
-/

namespace JavaNaming.Java.Grammar

/-- One state of the scanner: the token complete there, the state entered at the end of the text,
and the packed moves. -/
structure ScanRow where
  complete : Option Nat
  atEnd : Option Nat
  moves : Nat
deriving Repr

/-- The class of a character outside ASCII that no identifier contains. -/
def otherClass : Nat := 0

/-- The class of a character outside ASCII that can start an identifier. -/
def startClass : Nat := 1

/-- The class of a character outside ASCII that can only continue an identifier. -/
def continueClass : Nat := 2

/-- The classes of the ASCII characters. -/
def asciiClasses : Array Nat := #[
  3, 0, 0, 0, 0, 0, 0, 0, 0, 4, 5, 4, 4, 4, 0, 0, 0, 0, 0, 0, 0, 0, 0, 0, 0, 0, 0, 0, 0, 0, 0, 0,
  4, 6, 7, 0, 1, 8, 9, 10, 11, 12, 13, 14, 15, 16, 17, 18, 19, 20, 21, 21, 21, 21, 21, 21, 22, 22,
  23, 24, 25, 26, 27, 28, 29, 30, 31, 30, 32, 33, 32, 1, 1, 1, 1, 1, 34, 1, 1, 35, 36, 1, 1, 1, 1,
  1, 1, 1, 37, 1, 1, 38, 39, 40, 41, 42, 0, 43, 44, 45, 46, 47, 48, 1, 1, 49, 1, 1, 50, 1, 51, 52,
  36, 1, 53, 54, 55, 56, 1, 1, 57, 1, 1, 58, 59, 60, 61, 0]

/-- The states of the scanner. -/
def scanRows : Array ScanRow := #[
  ⟨none, some 1, 0x8c4421100180c06030180c1f030180c06030180c06030783a1c0d8180c06030180c060306832180b8582a140984c2612088401e0e06830160a048200e050200e07000001800⟩,
  ⟨some 0, none, 0x0⟩,
  ⟨none, some 1, 0x8c4421100180c06030180c1f030180c06030180c06030783a240d8180c06030180c060306832180b8582a140984c2612088401e0e06830160a048200e050200e07000001800⟩,
  ⟨some 60, none, 0x1280000000000000000000000000000000000000000000000000000000000⟩,
  ⟨some 11, none, 0x260000000000000000⟩,
  ⟨some 1, none, 0x180c06030180c06030180c06030180c06030000000000180c06030180c06030000000000000000030180c060000000000000000000000000000000000000301800⟩,
  ⟨some 50, none, 0x1380000000000000000000000000000000000000000000000000000000000⟩,
  ⟨some 23, none, 0x148000000000000000000000000000000000000a000000000000000000000⟩,
  ⟨none, none, 0xa8542a150a8542a150a8542a150a8542a150a8542a150a8542b150a8542a150a8542a150a8542a150a8542a150a8542a150a8542a150a8542a000a8542a150005400150a854⟩,
  ⟨some 21, none, 0x0⟩, ⟨some 22, none, 0x0⟩,
  ⟨some 46, none, 0x1600000000000000000000000000000000000000000000000000000000000⟩,
  ⟨some 44, none, 0x1700000000000000000000000001680000000000000000000000000000000⟩,
  ⟨some 57, none, 0x0⟩,
  ⟨some 45, none, 0x31180000000000000000000005e000000000000000000000000000000000000⟩,
  ⟨some 67, none, 0x198cc6633000c800000000000000000000000000000000000000⟩,
  ⟨some 47, none, 0x1b00000000000000001a8000000000d000000000000000000000000000000⟩,
  ⟨some 2, none, 0xfc0000000007c001e800763c1d8007400200000000000fc783e1e8f0763a0000000000000000001c8e07038000dc00000000000000000000000000000000000000⟩,
  ⟨some 2, none, 0x1e800763c1d80000002080000000000078001e8f076000000000000000000000984c2613000dc00000000000000000000000000000000000000⟩,
  ⟨some 59, none, 0x420000000000000000000000000000000000000000000000000000⟩, ⟨some 77, none, 0x0⟩,
  ⟨some 37, none, 0x2210c00000000000000000000000000000000000000000000000000000000⟩,
  ⟨some 24, none, 0x2280000000000000000000000000000000000000000000000000000000000⟩,
  ⟨some 36, none, 0x472300000000000000000000000000000000000000000000000000000000000⟩,
  ⟨some 58, none, 0x0⟩,
  ⟨some 93, none, 0x12000000000000000000000000000000000000000000000000000000000000000000000000000000000000000000000000000000000000000⟩,
  ⟨some 65, none, 0x0⟩,
  ⟨none, none, 0x124924927134984a25128924a24924944924924944924924924a2492492492492492492492492492492492492492c964b24924924924924924925124924a2492492002492492⟩,
  ⟨some 66, none, 0x0⟩,
  ⟨some 49, none, 0x2780000000000000000000000000000000000000000000000000000000000⟩,
  ⟨some 1, none, 0x180c0603018a006030180c06030180c06030000000000180c06030180c06030000000000000000030180c060000000000000000000000000000000000000301800⟩,
  ⟨some 72, none, 0x0⟩,
  ⟨some 48, none, 0x520000000000000000000000000000000000000000000000000000000000000000000000002880000000000000000000000000000000000000000000000000000000000⟩,
  ⟨some 17, none, 0x0⟩, ⟨some 61, none, 0x0⟩,
  ⟨none, none, 0x2700000000000000000000000000000000000000000000000000000000000000000000000000000000000000000000000000000000000000000000000000000000000⟩,
  ⟨some 41, none, 0x0⟩, ⟨none, none, 0x530000000000000000⟩, ⟨some 32, none, 0x0⟩,
  ⟨some 42, none, 0x0⟩, ⟨some 29, none, 0x0⟩,
  ⟨none, none, 0xa8542a150a8542a150a8542a150a8542a150a8542a150a8542b150a8542a150a8542a150a8542a150a8542a150a8542a150a8542a150a8542a2a0a8542a150005400150a854⟩,
  ⟨none, none, 0xa8542a150a8542a150a8542a150a8542a150a8542a150a8542a150a8542a150a8542a150a8542a150a8542a150a8542a150a8542a150a8542a150a8542a150a85400150a854⟩,
  ⟨some 27, none, 0x0⟩, ⟨some 62, none, 0x0⟩, ⟨some 25, none, 0x0⟩, ⟨some 63, none, 0x0⟩,
  ⟨some 26, none, 0x0⟩, ⟨some 56, none, 0x0⟩,
  ⟨none, none, 0x15400000000000000000000000000000000000000⟩,
  ⟨some 6, none, 0x763c1d80000002b0000000000000000000f07600000000000000000000198cc66330000000000000000000000000000000000000000000⟩,
  ⟨none, none, 0xd068341a0d068341a0d068341a0d068341a0d068341a0d068341a0d068341a0d068341a0d068341a0d068341a0d068341a0d068341a15c68341a0d068341a0d068001a0d068⟩,
  ⟨some 136, none, 0xd46a351a8d46a351a8d46a351a8d46a351a8d46a351a8d46a351a8d46a351a8d46a351a8d46a351a8d46a351a8d46a351a8d46a351a8d46a351a8d46a351a8006a001a8d46a⟩,
  ⟨some 28, none, 0x0⟩,
  ⟨some 6, none, 0x763c1d8000000000000000000000000000f07600000000000000000000198cc66330000000000000000000000000000000000000000000⟩,
  ⟨some 4, none, 0x2c00000000000000002c80000000000000002c00000000000000000000000001c8e07038000dc00000000000000000000000000000000000000⟩,
  ⟨none, none, 0x2000000000000000000000000000000000000000000001c8e47239000dc00000000000000000000000000000000000000⟩,
  ⟨none, none, 0xb45a0000000000000000000000000000000000000000000⟩, ⟨some 6, none, 0x0⟩,
  ⟨none, none, 0x2e170b85c00000b6002d80000000000000000000000000000000⟩, ⟨some 2, none, 0x0⟩,
  ⟨none, none, 0x174ba5d0000000000000000000000000000000000000000000⟩,
  ⟨none, none, 0xbe5f2f97cbe5f0000000000000000000017cbe5f2f80000000000000002f97cbe5f0017800000000000000000000000000000000000000⟩,
  ⟨none, none, 0x1c8e472390000000000000000000000000000000000000000000⟩,
  ⟨none, none, 0x984c26130000000000000000000000000000000000000000000⟩, ⟨some 69, none, 0x0⟩,
  ⟨some 51, none, 0x3000000000000000000000000000000000000000000000000000000000000⟩,
  ⟨some 39, none, 0x0⟩, ⟨some 40, none, 0x0⟩, ⟨some 38, none, 0x0⟩,
  ⟨some 52, none, 0x623080000000000000000000000000000000000000000000000000000000000⟩,
  ⟨none, none, 0x630000000000000000000000000000000000000000000000000000000000000000000000000000000000000000000000000000000000000000000⟩,
  ⟨some 18, none, 0x0⟩, ⟨some 19, none, 0x0⟩,
  ⟨some 18, none, 0x190c8640000000000000000000000000000000000000000000⟩,
  ⟨some 18, none, 0x33000000000000000000000ca6532994ca6500000000000000000000194ca6532800000000000000032994ca650000000000000000000000000000000000000000000⟩,
  ⟨some 18, none, 0xce673399cce670000000000000000000019cce673380000000000000003399cce670000000000000000000000000000000000000000000⟩,
  ⟨some 16, none, 0x0⟩, ⟨some 31, none, 0x0⟩,
  ⟨some 1, none, 0x180c06030180c68030180c06030180c06030000000000180c06030180c06030000000000000000030180c060000000000000000000000000000000000000301800⟩,
  ⟨some 30, none, 0x0⟩, ⟨some 43, none, 0x0⟩, ⟨some 12, none, 0x0⟩, ⟨some 10, none, 0x0⟩,
  ⟨some 132, none, 0x0⟩, ⟨none, none, 0x198cc66330000000000000000000000000000000000000000000⟩,
  ⟨none, none, 0xd068341a0d068341a0d068341a0d068341a0d068341a0d068341a0d068341a0d068341a0d068341a0d068341a0d06834348d068341a15c68341a0d068341a0d068001a0d068⟩,
  ⟨some 4, none, 0x0⟩, ⟨none, none, 0x1c8e070380000000000000000000000000000000000000000000⟩,
  ⟨some 5, none, 0x3500000000000000001d000000000000000035000000000000000000000000000000b45a0000000000000000000000000000000000000000000⟩,
  ⟨none, none, 0x2e170b85c0000000000000000000000000000000000000000000⟩,
  ⟨some 6, none, 0x76001d80000002d80000000000000000000076000000000000000000002e170b85c0000000000000000000000000000000000000000000⟩,
  ⟨some 4, none, 0x2c00000000000000001f00000000000000002c000000000000000000000000000174ba5d0000000000000000000000000000000000000000000⟩,
  ⟨none, none, 0xd66b359acd66b000000000000000000001acd66b358000000000000000359acd66b0000000000000000000000000000000000000000000⟩,
  ⟨some 3, none, 0x37000be6d2f97cbe5f38000000000000de00371b4be5f2f80000000000000002f97cbe5f001b000000000000000000000000000000000000000⟩,
  ⟨some 33, none, 0x0⟩, ⟨some 34, none, 0x0⟩,
  ⟨some 53, none, 0x3880000000000000000000000000000000000000000000000000000000000⟩,
  ⟨none, none, 0x720000000000000000000000000000000000000000000000000000000000000000000000000000000000000000000000000000000000000000000000000000⟩,
  ⟨some 19, none, 0x128944a0000000000000000000000000000000000000000000⟩,
  ⟨none, none, 0xe673399cce673000000000000000000001cce673398000000000000000399cce6730000000000000000000000000000000000000000000⟩,
  ⟨none, none, 0xe8743a1d0e874000000000000000000001d0e8743a00000000000000003a1d0e8740000000000000000000000000000000000000000000⟩,
  ⟨none, none, 0x944a25128944a00000000000000000000128944a25000000000000000025128944a0000000000000000000000000000000000000000000⟩,
  ⟨some 1, none, 0x180c06030180c06030180c06030180c06030000000000180c06030180c06030000000000000000030180c0600000ea000000000000000000000000000000301800⟩,
  ⟨some 137, none, 0x0⟩, ⟨some 5, none, 0x0⟩,
  ⟨some 7, none, 0xd676359acd66b2f000000000000de00001d8d66b358000000000000000359acd66b0000000000000000000000000000000000000000000⟩,
  ⟨some 7, none, 0xd676359acd66b00000000000000de00001d8d66b358000000000000000359acd66b0000000000000000000000000000000000000000000⟩,
  ⟨some 3, none, 0x37000be6d2f97cbe5f38000000000000de00371b4be5f2f80000000000000002f97cbe5f001b0ee003b80000000000000000000000000000000⟩,
  ⟨some 3, none, 0x0⟩, ⟨none, none, 0x3c9e4f27800000ee003b80000000000000000000000000000000⟩,
  ⟨none, none, 0xbe5f2f97cbe5f0000000000000000000017cbe5f2f80000000000000002f97cbe5f0000000000000000000000000000000000000000000⟩,
  ⟨some 35, none, 0x0⟩,
  ⟨none, none, 0x7a0000000000000000000000000000000000000000000000000000000000000000000000000000000000000000000000000000000000⟩,
  ⟨none, none, 0xce673399cce670000000000000000000019cce673380000000000000003399cce670000000000000000000000000000000000000000000⟩,
  ⟨none, none, 0x940000000000000000000000000e8743a1d0e874000000000000000000001d0e8743a00000000000000003a1d0e8740000000000000000000000000000000000000000000⟩,
  ⟨none, none, 0x3d80000000000000000000000000000000000000000000000000000000000000000000000000000000000000000000000000000000000000000000000000⟩,
  ⟨some 7, none, 0xd676359acd66b2f000000000000de00001d8d66b358000000000000000359acd66b00000ee003b80000000000000000000000000000000⟩,
  ⟨none, none, 0x3c9e4f2780000000000000000000000000000000000000000000⟩,
  ⟨some 7, none, 0xf8003e000000000000000000000000000000f8000000000000000000000000000000000000000000000000000000000000000000000000⟩,
  ⟨some 7, none, 0xf8003e00000003e800000000000000000000f8000000000000000000003c9e4f2790000000000000000000000000000000000000000000⟩,
  ⟨none, none, 0x1f800000000000000000000000000000000000000000000000000000000000000000000000000000000000000000000000000000000000000000000000⟩,
  ⟨none, none, 0x7f0000000000000000000000000000000000000000000000000000000000000000000000000000000000000000000000000000000000⟩,
  ⟨some 7, none, 0x0⟩, ⟨none, none, 0x3c9e4f2790000000000000000000000000000000000000000000⟩,
  ⟨none, none, 0x100000000000000000000000000000000000000000000000000000000000000000000000000000000000000000000000000000000000000⟩,
  ⟨none, none, 0x810000000000000000000000000000000000000000000000000000000000000000000000000000000000000000000000000⟩,
  ⟨none, none, 0x820000000000000000000000000000000000000000000000000000000000000000000000000000000000000000000000000⟩,
  ⟨none, none, 0x4180000000000000000000000000000000000000000000000000000000000000000000000000000000000000000000000000000000000000000⟩,
  ⟨none, none, 0x21000000000000000000000000000000000000000000000000000000000000000000000000000000000000000000000000000000⟩,
  ⟨none, none, 0x850000000000000000000000000000000000000000000000000000000000000000000000000000000000000000000000000000000000⟩,
  ⟨none, none, 0x860000000000000000000000000000000000000000000000000000000000000000000000000000000000000000000000000000000000⟩,
  ⟨none, none, 0x4380000000000000000000000000000000000000000000000000000000000000000000000000000000000000000000000000000000⟩,
  ⟨some 121, none, 0x0⟩, ⟨some 117, none, 0x0⟩,
  ⟨none, none, 0x8c4421100180c06030180c06030180c06030180c06030783a000d8180c06030180c060322432180b8582a140984c2612088401e0e06830160a048200e050222311000001800⟩,
  ⟨some 93, none, 0x0⟩,
  ⟨none, some 1, 0x8c4496100180c06030180c1f030180c06030180c06032543a000d8180c06030180c0603068329449a482a140984c261248a411e0e47234160a04a3116050222b15000001800⟩,
  ⟨some 50, none, 0x0⟩, ⟨some 23, none, 0xa000000000000000000000⟩, ⟨some 46, none, 0x0⟩,
  ⟨some 44, none, 0x1680000000000000000000000000000000⟩,
  ⟨some 45, none, 0x31000000000000000000000005e000000000000000000000000000000000000⟩,
  ⟨some 67, none, 0x198cc66330000000000000000000000000000000000000000000⟩,
  ⟨some 47, none, 0x1a8000000000d000000000000000000000000000000⟩,
  ⟨some 37, none, 0x2225c00000000000000000000000000000000000000000000000000000000⟩,
  ⟨none, none, 0x2280000000000000000000000000000000000000000000000000000000000⟩,
  ⟨some 36, none, 0x982300000000000000000000000000000000000000000000000000000000000⟩,
  ⟨some 49, none, 0x0⟩,
  ⟨some 48, none, 0x520000000000000000000000000000000000000000000000000000000000000000000000000000000000000000000000000000000000000000000000000000000000000⟩,
  ⟨some 51, none, 0x0⟩,
  ⟨some 52, none, 0x990000000000000000000000000000000000000000000000000000000000000⟩,
  ⟨some 53, none, 0x0⟩,
  ⟨none, none, 0x8c4421000180c06030180c1f030180c06030180c060307800000d8180c06030180c060322432180b8582a9b0984c261208a401e0e06830160a048200e050226b35000001800⟩,
  ⟨none, none, 0x420000000000000000000000000000000000000000000000000000⟩,
  ⟨none, none, 0x4496000180c06030180c1f030180c06030180c06032543a000d8180c06030180c060322432940ba482a1400000000048a791e0e47234160a0023116004ea7339000001800⟩,
  ⟨none, none, 0x1280000000000000000000000000000000000000000000000000000000000⟩,
  ⟨some 67, none, 0x0⟩,
  ⟨none, none, 0x4496100180c06030180c06030180c06030180c06032543a000d8180c06030180c0603224329449a482a1400000000048a791e0e47234160a0023116004ea7f3f000001800⟩,
  ⟨none, none, 0xa7100180c06030180c06030180c06030180c060300000000d8180c06030180c060322432a652a902a1400000000051a88000e00000160a0028400000028341000001800⟩,
  ⟨some 23, none, 0x0⟩, ⟨some 67, none, 0xc800000000000000000000000000000000000000⟩,
  ⟨none, none, 0x1a8000000000d000000000000000000000000000000⟩, ⟨some 37, none, 0x0⟩,
  ⟨some 24, none, 0x0⟩, ⟨some 36, none, 0x0⟩, ⟨some 48, none, 0x0⟩,
  ⟨none, none, 0x180c06030180c06030180c06030180c06030000000000180c06030180c06032a40000002900000000000000518000000000000000000000000002a351000001800⟩,
  ⟨none, none, 0x12000000000000000000000000000000000000000000000000000000000000000000000000000000000000000000000000000000000000000⟩,
  ⟨none, none, 0x2ad56ab55aad56ab55aad56ab55aad56ab55aad56ab55aad561c55aad56ab55aad56ab55aad56ab55aad56ab55aad56ab572ad56ab55aad56ab55aad56ad55ab1580055aad56⟩,
  ⟨some 14, none, 0x2ad56ab55aad56ab55aad56ab55aad56ab55aad56ab55aad560055aad56ab55aad56ab55aad56ab55aad56ab55aad56ab55aad56ab55aad56ab55aad560055aad560055aad56⟩,
  ⟨some 14, none, 0x2ad56ab55aad56ab55aad56ab55aad56ab55aad56ab55aad560055aad56ab55aad56ab55aad56ab55aad56ab55aad56ab572ad56ab55aad56ab55aad560055ab1580055aad56⟩,
  ⟨some 15, none, 0x2bd5eaf57abd5eaf57abd5eaf57abd5eaf57abd5eaf57abd5eb057abd5eaf57abd5eaf57abd5eaf57abd5eaf57abd5eaf57abd5eaf57abd5eaf57abd5e2657abd5e0057abd5e⟩,
  ⟨some 14, none, 0x2ad56ab55aad56ab55aad56ab55aad56ab55aad56ab55aad560055aad56ab55aad56ab55aad56ab55aad56ab55aad56ab592ad56ab55ac556ab55aad560055aad560055aad56⟩,
  ⟨some 15, none, 0x2bd5eaf57abd5eaf57abd5eaf57abd5eaf57abd5eaf57abd5eb057abd5eaf57abd5eaf57abd5eaf57abd5eaf57abd5eaf57abd5eaf57abd5eaf57abd5e0057abd5e0057abd5e⟩,
  ⟨none, none, 0xaf0000000000000000⟩,
  ⟨some 14, none, 0x2c562b158ac562b158ac562b158ac562b158ac562b158ac5623458ac562b158ac562b158ac562b158ac562b158ac562b158ac562b158acd62b158ac5623458ac5620058ac562⟩,
  ⟨some 14, none, 0x2c964b2592c964b2592c964b2592c964b2592c964b2592c96435592c964b2592c964b2592c964b2592c964b2592c964b2592c964b2592c964b2592c96435592ad6400592c964⟩,
  ⟨some 14, none, 0x2c562b158ac562b158ac562b158ac562b158ac562b158ac5623458ac562b158ac562b158ac562b158ac562b158ac562b155ac562b158acd62b158ac5623458ac5620058ac562⟩,
  ⟨none, none, 0x2d56ab55aad56ab55aad56ab55aad56ab55aad56ab55aad56ab75aad56ab55aad56ab55aad56ab55aad56ab55aad56ab55aad56ab55aad56ab55aad56ab65aad56a005aad56a⟩,
  ⟨some 13, none, 0x2d56ab55aad56ab55aad56ab55aad56ab55aad56ab55aad56a005aad56ab55aad56ab55aad56ab55aad56ab55aad56ab55aad56ab55aad56ab55aad56a005aad56a005aad56a⟩,
  ⟨some 11, none, 0x0⟩,
  ⟨none, none, 0x128944a271cd724a25128944a25128944a25128944a25128944a25128944a25128944a25128944a25128944a252e170b825128944a25128944a25128944a2512894002512894⟩,
  ⟨some 19, none, 0x190c8640000000000000000000000000000000000000000000⟩,
  ⟨none, none, 0x33000000000000000000000ca6532994ca6500000000000000000000194ca6532800000000000000032994ca650000000000000000000000000000000000000000000⟩]

/-- The scanner state that each scanning mode starts in. -/
def scanStarts : Array Nat := #[0, 135, 137, 153, 155, 158, 159, 167, 169, 179]

/-- For each terminal the set of the terminals that can be read in its place where both are
expected. -/
def overlaps : Array Nat := #[
  0x0, 0xeffdffffffdfffded100c0000000106300, 0x60f8, 0x6080, 0x6040, 0x6000, 0x6000, 0x6008,
  0x6002, 0x6002, 0x6000, 0x9000, 0x0, 0x0, 0x3fffffffffffffffffffffffffffff227fc, 0x1800, 0x0,
  0x6000, 0x90000, 0x50000, 0x6002, 0x6000, 0x6000, 0x40020006000, 0x10000006000, 0x6000, 0x6000,
  0x6000, 0x6000, 0x6000, 0x6000, 0x6000, 0x6000, 0x6000, 0x6000, 0x6000, 0x30004c00006000,
  0x8008200006000, 0x6000, 0x6000, 0x6000, 0x6000, 0x6000, 0x6000, 0x4000000002006000,
  0x8100000004006000, 0x8006000, 0x30000000000000000000000000010006000, 0x80040006000, 0x80006000,
  0x100006000, 0x200006000, 0x20000c00006000, 0x800006000, 0x6002, 0x20000000000000000006002,
  0x6000, 0x6000, 0x6000, 0x200000000000006000, 0x20000006000, 0x6000, 0x6000, 0x6000, 0x6002,
  0x6000, 0x6000, 0x1000000000000000000000000000006040, 0x6002, 0x6000, 0x6002, 0x6002, 0x6000,
  0x6002, 0x6002, 0x6002, 0x6002, 0x6000, 0x6002, 0x200000000000000000000000000006002, 0x6002,
  0x6002, 0x6002, 0x6002, 0x6002, 0x6002, 0x2000000000000000000000000000006002, 0x6002, 0x6002,
  0x6002, 0x6002, 0x6002, 0x6002, 0x2000000000000000000000000006000, 0x20000000000000000000006002,
  0x6002, 0x6002, 0x6002, 0x6002, 0x6002, 0x6002, 0x6002, 0x6002, 0x6002, 0x6002, 0x6002, 0x6002,
  0x6002, 0x6002, 0x6002, 0x6002, 0x6002, 0x6002, 0x6002, 0x6002, 0x6002, 0x6002, 0x6000, 0x6002,
  0x6002, 0x6002, 0x6000, 0x6002, 0x6002, 0x6002, 0x4000000000000000000000000006002, 0x6002,
  0x6002, 0x6002, 0x6002, 0x6002, 0x6002, 0x6000, 0x6002, 0x6002, 0x6002, 0x6000, 0x6000]

end JavaNaming.Java.Grammar
