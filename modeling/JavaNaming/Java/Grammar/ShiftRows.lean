/-!
# Shift rows

The distinct rows of the shift table. A row packs twenty bits for each terminal that can be shifted,
by increasing terminal from the low end: eight bits for the terminal, eleven for the state entered,
and one that marks a shift inside a repetition, which the parser leaves to the reduction it competes
with.
-/

namespace JavaNaming.Java.Grammar

/-- The distinct shift rows. -/
def shiftRows : Array Nat := #[
  0x0,
  0x4a587202862fc832fc822d2812d2802d17f2d17e2d17d2d17c2d17b51e7a51d791c6781f775191741f7731f7721f7711f7701f76f1f76e1f76d1f76c51c6b37d6a38869085681f7621a95f1c55e3875d51b5c4a45a3f6570c3562435506a54093534a3524a2514a15000f4f0c24e1004d1f74a008484a04751a4430d400c13f0c13e0c03d0c03c1f7370c02d0c02c3a525073152011437c0c3b00b2010a20109201082010720106201052010420103201021a501,
  0xca587a0286afc83afc82ad281ad280ad17fad17ead17dad17cad17bd1e7ad1d799c6789f775991749f7739f7729f7719f7709f76f9f76e9f76d9f76cd1c6bb7d6ab8869885689f7629a95f9c55eb875dd1b5cca45abf6578c356a435586a5489353ca352ca251ca15080f4f8c24e9004d9f74a80848ca047d1a44b0d408c13f8c13e8c03d8c03c9f7378c02d8c02cba52587315a0114b7c0cbb00ba010aa0109a0108a0107a0106a0105a0104a0103a01029a501,
  0x4a587202862fc832fc822d2812d2802d17f2d17e2d17d2d17c2d17b51e7a51d791c6781f775192741f7731f7721f7711f7701f76f1f76e1f76d1f76c51c6b37d6a38869085681f7621a95f1c55e3875d5685c5165a3f6570c3562435506a54093534a3524a2515155000f4f0c24e1004d008484a04751a4430d400c13f0c13e0c03d0c03c1f7370c02d0c02c073152011437c0c3b00b2010a20109201082010720106201052010420103201021a701,
  0x42087273862fc832fc822d2812d2802d17f2d17e2d17d2d17c2d17b51e7a51d791c6781f775192741f7731f7721f7711f7701f76f1f76e1f76d1f76c51c6b37d6a38869085681f7621a95f1c55e3875d5685c5165a3f6570c3562435506a54093534a3524a2515155000f4f0c24e1004d1f74a008484a04751a4430d400c13f0c13e0c03d0c03c1f7370c02d0c02c2912507315201142311137c0c3b00b2010a20109201082010720106201052010420103201021a701,
  0xca587a0286afc83afc82ad281ad280ad17fad17ead17dad17cad17bd1e7ad1d799c6789f775992749f7739f7729f7719f7709f76f9f76e9f76d9f76cd1c6bb7d6ab8869885689f7629a95f9c55eb875dd685cd165abf6578c356a435586a5489353ca352ca251d155080f4f8c24e9004d9f74a80848ca047d1a44b0d408c13f8c13e8c03d8c03c9f7378c02d8c02c87315a0114b7c0cbb00ba010aa0109a0108a0107a0106a0105a0104a0103a01029a701,
  0x4a587202862fc832fc822d2812d2802d17f2d17e2d17d2d17c2d17b51e7a51d791c6781f775192741f7731f7721f7711f7701f76f1f76e1f76d1f76c51c6b37d6a38869085681f7621a95f1c55e3875d5685c5165a3f6570c3562435506a54093534a3524a2515155000f4f0c24e1004d1f74a008484a04751a4430d400c13f0c13e0c03d0c03c1f7370c02d0c02c073152011406d1137c0c3b00b2010a20109201082010720106201052010420103201021a701,
  0x4a587202862fc832fc822d2812d2802d17f2d17e2d17d2d17c2d17b51e7a51d791c6781f775192741f7731f7721f7711f7701f76f1f76e1f76d1f76c51c6b37d6a38869085681f7621a95f1c55e3875d5685c5165a3f6570c3562435506a54093534a3524a2515155000f4f0c24e1004d1f74a008484a04751a4430d400c13f0c13e0c03d0c03c1f7370c02d0c02c07315201140701137c0c3b00b2010a20109201082010720106201052010420103201021a701,
  0x4a587202862fc832fc822d2812d2802d17f2d17e2d17d2d17c2d17b51e7a51d791c6781f775192741f7731f7721f7711f7701f76f1f76e1f76d1f76c51c6b37d6a38869085681f7621a95f1c55e3875d5685c5165a3f6570c3562435506a54093534a3524a2515155000f4f0c24e1004d1f74a008484a04751a4430d400c13f0c13e0c03d0c03c1f7370c02d0c02c073152011423b1137c0c3b00b2010a20109201082010720106201052010420103201021a701,
  0x4a587202862fc832fc822d2812d2802d17f2d17e2d17d2d17c2d17b51e7a51d791c6781f775192741f7731f7721f7711f7701f76f1f76e1f76d1f76c51c6b37d6a38869085681f7621a95f1c55e3875d5685c5165a3f6570c3562435506a54093534a3524a2515155000f4f0c24e1004d1f74a008484a04751a4430d400c13f0c13e0c03d0c03c1f7370c02d0c02c073152011423e1137c0c3b00b2010a20109201082010720106201052010420103201021a701,
  0x4a587202862fc832fc822d2812d2802d17f2d17e2d17d2d17c2d17b51e7a51d791c6781f775192741f7731f7721f7711f7701f76f1f76e1f76d1f76c51c6b37d6a38869085681f7621a95f1c55e3875d5685c5165a3f6570c3562435506a54093534a3524a2515155000f4f0c24e1004d1f74a008484a04751a4430d400c13f0c13e0c03d0c03c1f7370c02d0c02c07315201140fc1137c0c3b00b2010a20109201082010720106201052010420103201021a701,
  0x4a587202862fc832fc822d2812d2802d17f2d17e2d17d2d17c2d17b51e7a51d791c6781f775192741f7731f7721f7711f7701f76f1f76e1f76d1f76c51c6b37d6a38869085681f7621a95f1c55e3875d5685c5165a3f6570c3562435506a54093534a3524a2515155000f4f0c24e1004d1f74a008484a04751a4430d400c13f0c13e0c03d0c03c1f7370c02d0c02c07315201140fd1137c0c3b00b2010a20109201082010720106201052010420103201021a701,
  0x4a587202862fc832fc822d2812d2802d17f2d17e2d17d2d17c2d17b51e7a51d791c6781f775192741f7731f7721f7711f7701f76f1f76e1f76d1f76c51c6b37d6a38869085681f7621a95f1c55e3875d5695c5185a3f6570c3562435506a54093534a3524a2515175000f4f0c24e1004d1f74a008484a04751a4430d400c13f0c13e0c03d0c03c1f7370c02d0c02c073152011437c0c3b00b2010a20109201082010720106201052010420103201021a801,
  0x4a587202862fc832fc822d2812d2802d17f2d17e2d17d2d17c2d17b51e7a51d791c6781f775192741f7731f7721f7711f7701f76f1f76e1f76d1f76c51c6b37d6a38869085681f7621a95f1c55e3875d51b5c4a45a3f6570c3562435506a54093534a3524a2514a15000f4f0c24e1004d1f74a008484a04751a4430d400c13f0c13e0c03d0c03c1f7370c02d0c02c073152011437c0c3b00b2010a20109201082010720106201052010420103201021a501,
  0x4a587202862fc832fc822d2812d2802d17f2d17e2d17d2d17c2d17b51e7a51d791c6781f775192741f7731f7721f7711f7701f76f1f76e1f76d1f76c51c6b37d6a38869085681f7621a95f1c55e3875d5685c5165a3f6570c3562435506a54093534a3524a2515155000f4f0c24e1004d1f74a008484a04751a4430d400c13f0c13e0c03d0c03c1f7370c02d0c02c073152011437c0c3b00b2010a20109201082010720106201052010420103201021a701,
  0x4a587202862fc832fc822d2812d2802d17f2d17e2d17d2d17c2d17b0857808574085680855f0855e39d5d086544a04730d400c13f0c13e0c03d0c03c0c02d0c02c073152011437c0c3b00b2010a201092010820107201062010520104201032010219d01,
  0x4a587202862fc832fc822d2812d2802d17f2d17e2d17d2d17c2d17b085782747519374274732747227471274702746f2746e2746d2746c08568274620855f0855e39c5d27455086542744a4a04730d400c13f0c13e0c03d0c03c274370c02d0c02c3a616073152011437c0c3b00b2010a201092010820107201062010520104201032010219e01,
  0x4a587202862fc832fc822d2812d2802d17f2d17e2d17d2d17c2d17b085782747519374274732747227471274702746f2746e2746d2746c08568274620855f0855e39c5d27455086542744a4a04730d400c13f0c13e0c03d0c03c274370c02d0c02c3a616073152011437c0c3b00b2010a201092010820107201062010520104201032010219f01,
  0x4a587202862fc832fc822d2812d2802d17f2d17e2d17d2d17c2d17b085782747519374274732747227471274702746f2746e2746d2746c08568274620855f0855e39c5d27455086540984d2744a4a04730d400c13f0c13e0c03d0c03c274370c02d0c02c073152011437c0c3b00b2010a201092010820107201062010520104201032010219d01,
  0x4a587202862fc832fc822d2812d2802d17f2d17e2d17d2d17c2d17b085782747519374274732747227471274702746f2746e2746d2746c08568274620855f0855e39c5d27455086540b84d2744a4a04730d400c13f0c13e0c03d0c03c274370c02d0c02c073152011437c0c3b00b2010a201092010820107201062010520104201032010219d01,
  0x4a587202862fc832fc822d2812d2802d17f2d17e2d17d2d17c2d17b085782747519374274732747227471274702746f2746e2746d2746c08568274620855f0855e39c5d27455086540bc4d2744a4a04730d400c13f0c13e0c03d0c03c274370c02d0c02c073152011437c0c3b00b2010a201092010820107201062010520104201032010219d01,
  0x4a587202862fc832fc822d2812d2802d17f2d17e2d17d2d17c2d17b0857808574085680855f0855e39d5d0865407c484a04730d400c13f0c13e0c03d0c03c0c02d0c02c21816073152011437c0c3b00b2010a20109201082010720106201052010420103201021bd01,
  0x4a587202862fc832fc822d2812d2802d17f2d17e2d17d2d17c2d17b0857808574085680855f0855e39d5d0865407c484a04730d400c13f0c13e0c03d0c03c547390c02d0c02c07315201144191137c0c3b00b2010a201092010820107201062010520104201032010219d01,
  0x4a587202862fc832fc822d2812d2802d17f2d17e2d17d2d17c2d17b0857808574085680855f0855e39d5d0c35608654008484a04730d400c13f0c13e0c03d0c03c0c02d0c02c073152011437c0c3b00b2010a201092010820107201062010520104201032010219d01,
  0x4a587202862fc832fc822d2812d2802d17f2d17e2d17d2d17c2d17b0857808574085680855f0855e39d5d0865407c484a04730d400c13f0c13e0c03d0c03c0c02d0c02c2a116073152011437c0c3b00b2010a20109201082010720106201052010420103201021bd01,
  0x4a587202862fc832fc822d2812d2802d17f2d17e2d17d2d17c2d17b0857808574085680855f0855e39d5d0865407c484a04730d400c13f0c13e0c03d0c03c0c02d0c02c2ce16073152011437c0c3b00b2010a20109201082010720106201052010420103201021bd01,
  0x4a587202862fc832fc822d2812d2802d17f2d17e2d17d2d17c2d17b0857808574085680855f0855e39d5d08654080484a04730d400c13f0c13e0c03d0c03c540390c02d0c02c073152011421c1137c0c3b00b2010a201092010820107201062010520104201032010219d01,
  0x4a587202862fc832fc822d2812d2802d17f2d17e2d17d2d17c2d17b0857808574085680855f0855e39d5d086544f14b4a04730d400c13f0c13e0c03d0c03c0c02d0c02c27116073152011437c0c3b00b2010a20109201082010720106201052010420103201021a601,
  0x4a587202862fc832fc822d2812d2802d17f2d17e2d17d2d17c2d17b0857808574085680855f0855e39d5d0865407c484a04730d400c13f0c13e0c03d0c03c0c02d0c02c07315201144251137c0c3b00b2010a201092010820107201062010520104201032010219d01,
  0x4a587202862fc832fc822d2812d2802d17f2d17e2d17d2d17c2d17b0857808574085680855f0855e39d5d0865407c484a04730d400c13f0c13e0c03d0c03c0c02d0c02c07315201144291137c0c3b00b2010a201092010820107201062010520104201032010219d01,
  0x4a587202862fc832fc822d2812d2802d17f2d17e2d17d2d17c2d17b0857808574085680855f0855e39d5d086544f14b4a04730d400c13f0c13e0c03d0c03c0c02d0c02c27916073152011437c0c3b00b2010a20109201082010720106201052010420103201021a601,
  0x4a587202862fc832fc822d2812d2802d17f2d17e2d17d2d17c2d17b0857808574085680855f0855e39d5d086544a04730d400f13f0f13e0f03d0f03c0f02d0f02c075152011437c0c3b00b2010a20109201082010720106201052010420103201021a201,
  0x4a587202862fc832fc822d2812d2802d17f2d17e2d17d2d17c2d17b0857808574085680855f0855e39d5d0865407c484a04730d400c13f0c13e0c03d0c03c0c02d0c02c073152011437c0c3b00b2010a201092010820107201062010520104201032010219d01,
  0x4a587202862fc832fc822d2812d2802d17f2d17e2d17d2d17c2d17b0857808574085680855f0855e39d5d08654080484a04730d400c13f0c13e0c03d0c03c0c02d0c02c07315201142361137c0c3b00b2010a201092010820107201062010520104201032010219d01,
  0x4a587202862fc832fc822d2812d2802d17f2d17e2d17d2d17c2d17b0857808574085680855f0855e39d5d08654080484a04730d400c13f0c13e0c03d0c03c0c02d0c02c073152011423d1137c0c3b00b2010a201092010820107201062010520104201032010219d01,
  0x4a587202862fc832fc822d2812d2802d17f2d17e2d17d2d17c2d17b0857808574085680855f0855e39d5d086544a04730d400c13f0c13e0c03d0c03c0c02d0c02c073152011437c0c3b00b2010a20109201082010720106201052010420103201021a401,
  0x4a587202862fc832fc822d2812d2802d17f2d17e2d17d2d17c2d17b0857808574085680855f0855e39d5d08654008484a04730d400c13f0c13e0c03d0c03c0c02d0c02c073152011437c0c3b00b2010a201092010820107201062010520104201032010219d01,
  0x4a587202862fc832fc822d2812d2802d17f2d17e2d17d2d17c2d17b0857808574085680855f0855e39d5d08654080484a04730d400c13f0c13e0c03d0c03c0c02d0c02c073152011437c0c3b00b2010a201092010820107201062010520104201032010219d01,
  0x4a587202862fc832fc822d2812d2802d17f2d17e2d17d2d17c2d17b0857808574085680855f0855e39d5d08654008484a04730d400f13f0f13e0f03d0f03c0f02d0f02c075152011437c0c3b00b2010a20109201082010720106201052010420103201021b501,
  0x4a587202862fc832fc822d2812d2802d17f2d17e2d17d2d17c2d17b0857808574085680855f0855e39d5d086541044d4a04730d400c13f0c13e0c03d0c03c0c02d0c02c073152011437c0c3b00b2010a201092010820107201062010520104201032010219d01,
  0x4a587202862fc832fc822d2812d2802d17f2d17e2d17d2d17c2d17b0857808574085680855f0855e39d5d086544a04730d400c13f0c13e0c03d0c03c0c02d0c02c1fa16073152011437c0c3b00b2010a201092010820107201062010520104201032010219d01,
  0x4a587202862fc832fc822d2812d2802d17f2d17e2d17d2d17c2d17b0857808574085680855f0855e39d5d086544a04727b4230d400c13f0c13e0c03d0c03c0c02d0c02c073152011437c0c3b00b2010a201092010820107201062010520104201032010219d01,
  0x4b55952f58,
  0x4a587202862fc832fc822d2812d2802d17f2d17e2d17d2d17c2d17b0857808574085680855f0855e39d5d0865409c4d4a04730d400c13f0c13e0c03d0c03c0c02d0c02c073152011437c0c3b00b2010a201092010820107201062010520104201032010219d01,
  0x4a587202862fc832fc822d2812d2802d17f2d17e2d17d2d17c2d17b0857808574085680855f0855e39d5d0865409e4d4a04730d400c13f0c13e0c03d0c03c0c02d0c02c073152011437c0c3b00b2010a201092010820107201062010520104201032010219d01,
  0x4a587202862fc832fc822d2812d2802d17f2d17e2d17d2d17c2d17b0857808574085680855f0855e39d5d086544a04727e4230d400c13f0c13e0c03d0c03c0c02d0c02c073152011437c0c3b00b2010a201092010820107201062010520104201032010219d01,
  0x4a587202862fc832fc822d2812d2802d17f2d17e2d17d2d17c2d17b0857808574085680855f0855e39d5d086544a04730d400c13f0c13e0c03d0c03c0c02d0c02c01416073152011437c0c3b00b2010a201092010820107201062010520104201032010219d01,
  0x4a587202862fc832fc822d2812d2802d17f2d17e2d17d2d17c2d17b0857808574085680855f0855e39d5d086540a04d4a04730d400c13f0c13e0c03d0c03c0c02d0c02c073152011437c0c3b00b2010a201092010820107201062010520104201032010219d01,
  0x4a587202862fc832fc822d2812d2802d17f2d17e2d17d2d17c2d17b0857808574085680855f0855e39d5d086544a04730d400c13f0c13e0c03d0c03c0c02d0c02c01516073152011437c0c3b00b2010a201092010820107201062010520104201032010219d01,
  0x4a587202862fc832fc822d2812d2802d17f2d17e2d17d2d17c2d17b0857808574085680855f0855e39d5d086544a04730d400c13f0c13e0c03d0c03c0c02d0c02c01716073152011437c0c3b00b2010a201092010820107201062010520104201032010219d01,
  0x4a587202862fc832fc822d2812d2802d17f2d17e2d17d2d17c2d17b0857808574085680855f0855e39d5d086544a04730d400c13f0c13e0c03d0c03c0c02d0c02c01816073152011437c0c3b00b2010a201092010820107201062010520104201032010219d01,
  0x4a587202862fc832fc822d2812d2802d17f2d17e2d17d2d17c2d17b0857808574085680855f0855e39d5d086540a44d4a04730d400c13f0c13e0c03d0c03c0c02d0c02c073152011437c0c3b00b2010a201092010820107201062010520104201032010219d01,
  0x4a587202862fc832fc822d2812d2802d17f2d17e2d17d2d17c2d17b0857808574085680855f0855e39d5d086544a04730d400c13f0c13e0c03d0c03c0c02d0c02c01a16073152011437c0c3b00b2010a201092010820107201062010520104201032010219d01,
  0x4a587202862fc832fc822d2812d2802d17f2d17e2d17d2d17c2d17b0857808574085680855f0855e39d5d086544a04730d400c13f0c13e0c03d0c03c0c02d0c02c01e16073152011437c0c3b00b2010a201092010820107201062010520104201032010219d01,
  0x4a587202862fc832fc822d2812d2802d17f2d17e2d17d2d17c2d17b0857808574085680855f0855e39d5d086544a04730d400c13f0c13e0c03d0c03c0c02d0c02c01f16073152011437c0c3b00b2010a201092010820107201062010520104201032010219d01,
  0x4a587202862fc832fc822d2812d2802d17f2d17e2d17d2d17c2d17b0857808574085680855f0855e39d5d086544a04730d400c13f0c13e0c03d0c03c0c02d0c02c02716073152011437c0c3b00b2010a201092010820107201062010520104201032010219d01,
  0x4a587202862fc832fc822d2812d2802d17f2d17e2d17d2d17c2d17b0857808574085680855f0855e39d5d086544a0471cc4230d400c13f0c13e0c03d0c03c0c02d0c02c073152011437c0c3b00b2010a201092010820107201062010520104201032010219d01,
  0x4a587202862fc832fc822d2812d2802d17f2d17e2d17d2d17c2d17b0857808574085680855f0855e39d5d086544a0471ce4230d400c13f0c13e0c03d0c03c0c02d0c02c073152011437c0c3b00b2010a201092010820107201062010520104201032010219d01,
  0x4a587202862fc832fc822d2812d2802d17f2d17e2d17d2d17c2d17b0857808574085680855f0855e39d5d086544a04730d400c13f0c13e0c03d0c03c0c02d0c02c03216073152011437c0c3b00b2010a201092010820107201062010520104201032010219d01,
  0x4a587202862fc832fc822d2812d2802d17f2d17e2d17d2d17c2d17b0857808574085680855f0855e39d5d086544a04730d400c13f0c13e0c03d0c03c0c02d0c02c03316073152011437c0c3b00b2010a201092010820107201062010520104201032010219d01,
  0x4a587202862fc832fc822d2812d2802d17f2d17e2d17d2d17c2d17b0857808574085680855f0855e39d5d086544a04730d400c13f0c13e0c03d0c03c0c02d0c02c03516073152011437c0c3b00b2010a201092010820107201062010520104201032010219d01,
  0x4a587202862fc832fc822d2812d2802d17f2d17e2d17d2d17c2d17b0857808574085680855f0855e39d5d086544a04730d400c13f0c13e0c03d0c03c0c02d0c02c03616073152011437c0c3b00b2010a201092010820107201062010520104201032010219d01,
  0x4a587202862fc832fc822d2812d2802d17f2d17e2d17d2d17c2d17b0857808574085680855f0855e39d5d086544a04730d400c13f0c13e0c03d0c03c0c02d0c02c03816073152011437c0c3b00b2010a201092010820107201062010520104201032010219d01,
  0x4a587202862fc832fc822d2812d2802d17f2d17e2d17d2d17c2d17b0857808574085680855f0855e39d5d086544a04730d400c13f0c13e0c03d0c03c0c02d0c02c03c16073152011437c0c3b00b2010a201092010820107201062010520104201032010219d01,
  0x4a587202862fc832fc822d2812d2802d17f2d17e2d17d2d17c2d17b0857808574085680855f0855e39d5d086544a04730d400c13f0c13e0c03d0c03c0c02d0c02c03d16073152011437c0c3b00b2010a201092010820107201062010520104201032010219d01,
  0x4a587202862fc832fc822d2812d2802d17f2d17e2d17d2d17c2d17b0857808574085680855f0855e39d5d086544a04730d400c13f0c13e0c03d0c03c0c02d0c02c04516073152011437c0c3b00b2010a201092010820107201062010520104201032010219d01,
  0x4a587202862fc832fc822d2812d2802d17f2d17e2d17d2d17c2d17b0857808574085680855f0855e39d5d086544a04730d400c13f0c13e0c03d0c03c0c02d0c02c05016073152011437c0c3b00b2010a201092010820107201062010520104201032010219d01,
  0x4a587202862fc832fc822d2812d2802d17f2d17e2d17d2d17c2d17b0857808574085680855f0855e39d5d086544a04730d400c13f0c13e0c03d0c03c0c02d0c02c05116073152011437c0c3b00b2010a201092010820107201062010520104201032010219d01,
  0x4a587202862fc832fc822d2812d2802d17f2d17e2d17d2d17c2d17b0857808574085680855f0855e39d5d086544a04730d400c13f0c13e0c03d0c03c0c02d0c02c05316073152011437c0c3b00b2010a201092010820107201062010520104201032010219d01,
  0x4a587202862fc832fc822d2812d2802d17f2d17e2d17d2d17c2d17b0857808574085680855f0855e39d5d086544a04730d400c13f0c13e0c03d0c03c0c02d0c02c05416073152011437c0c3b00b2010a201092010820107201062010520104201032010219d01,
  0x4a587202862fc832fc822d2812d2802d17f2d17e2d17d2d17c2d17b0857808574085680855f0855e39d5d086544a04730d400c13f0c13e0c03d0c03c0c02d0c02c05616073152011437c0c3b00b2010a201092010820107201062010520104201032010219d01,
  0x4a587202862fc832fc822d2812d2802d17f2d17e2d17d2d17c2d17b0857808574085680855f0855e39d5d086544a04730d400c13f0c13e0c03d0c03c0c02d0c02c05a16073152011437c0c3b00b2010a201092010820107201062010520104201032010219d01,
  0x4a587202862fc832fc822d2812d2802d17f2d17e2d17d2d17c2d17b0857808574085680855f0855e39d5d086544a04730d400c13f0c13e0c03d0c03c0c02d0c02c05b16073152011437c0c3b00b2010a201092010820107201062010520104201032010219d01,
  0x4a587202862fc832fc822d2812d2802d17f2d17e2d17d2d17c2d17b0857808574085680855f0855e39d5d086544a04730d400c13f0c13e0c03d0c03c0c02d0c02c06316073152011437c0c3b00b2010a201092010820107201062010520104201032010219d01,
  0x4a587202862fc832fc822d2812d2802d17f2d17e2d17d2d17c2d17b0857808574085680855f0855e39d5d086540a84d4a04730d400c13f0c13e0c03d0c03c0c02d0c02c073152011437c0c3b00b2010a201092010820107201062010520104201032010219d01,
  0x4a587202862fc832fc822d2812d2802d17f2d17e2d17d2d17c2d17b0857808574085680855f0855e39d5d086540a94d4a04730d400c13f0c13e0c03d0c03c0c02d0c02c073152011437c0c3b00b2010a201092010820107201062010520104201032010219d01,
  0x4a587202862fc832fc822d2812d2802d17f2d17e2d17d2d17c2d17b0857808574085680855f0855e39d5d086540ab4d4a04730d400c13f0c13e0c03d0c03c0c02d0c02c073152011437c0c3b00b2010a201092010820107201062010520104201032010219d01,
  0x4a587202862fc832fc822d2812d2802d17f2d17e2d17d2d17c2d17b0857808574085680855f0855e39d5d086540ae4d4a04730d400c13f0c13e0c03d0c03c0c02d0c02c073152011437c0c3b00b2010a201092010820107201062010520104201032010219d01,
  0x4a587202862fc832fc822d2812d2802d17f2d17e2d17d2d17c2d17b0857808574085680855f0855e39d5d086540b04d4a04730d400c13f0c13e0c03d0c03c0c02d0c02c073152011437c0c3b00b2010a201092010820107201062010520104201032010219d01,
  0x4a587202862fc832fc822d2812d2802d17f2d17e2d17d2d17c2d17b0857808574085680855f0855e39d5d086540b14d4a04730d400c13f0c13e0c03d0c03c0c02d0c02c073152011437c0c3b00b2010a201092010820107201062010520104201032010219d01,
  0x4a587202862fc832fc822d2812d2802d17f2d17e2d17d2d17c2d17b0857808574085680855f0855e39d5d086540b34d4a04730d400c13f0c13e0c03d0c03c0c02d0c02c073152011437c0c3b00b2010a201092010820107201062010520104201032010219d01,
  0x4a587202862fc832fc822d2812d2802d17f2d17e2d17d2d17c2d17b0857808574085680855f0855e39d5d086540b64d4a04730d400c13f0c13e0c03d0c03c0c02d0c02c073152011437c0c3b00b2010a201092010820107201062010520104201032010219d01,
  0xd2f58,
  0x4a587202862fc832fc822d2812d2802d17f2d17e2d17d2d17c2d17b0857808574085680855f0855e39d5d086544a04730d400f13f0f13e0f03d0f03c0f02d0f02c075152011437c0c3b00b2010a20109201082010720106201052010420103201021b501,
  0x4a587202862fc832fc822d2812d2802d17f2d17e2d17d2d17c2d17b085782747519374274732747227471274702746f2746e2746d2746c08568274620855f0855e39c5d27455086542744a31f4027437544160c5152011437c0c3b00b2010a201092010820107201062010520104201032010233301,
  0x4a587202862fc832fc822d2812d2802d17f2d17e2d17d2d17c2d17b085782747519374274732747227471274702746f2746e2746d2746c08568274620855f0855e39c5d27455086542744a31f402743754c160c5152011437c0c3b00b2010a201092010820107201062010520104201032010233301,
  0x4a587202862fc832fc822d2812d2802d17f2d17e2d17d2d17c2d17b085782747519374274732747227471274702746f2746e2746d2746c08568274620855f0855e39c5d27455086542744a31f40274370c5152011437c0c3b00b2010a201092010820107201062010520104201032010233301,
  0xcd24a88e49,
  0x135b,
  0x315b,
  0x51487202862fc832fc822d2812d2802d17f2d17e2d17d2d17c2d17b1967819674196681965f1965e39d5d1975430d40074152011437c0c3b00b2010a20109201082010720106201052010420103201021e501,
  0x51487202862fc832fc822d2812d2802d17f2d17e2d17d2d17c2d17b1967819674196681965f1965e39d5d1975430d40074152011437c0c3b00b2010a201092010820107201062010520104201032010224101,
  0x2fc832fc822d2812d2802d17f2d17e2d17d2d17c2d17b51e7a51d79536781f7751f7741f7731f7721f7711f7701f76f1f76e1f76d1f76c51c6b244623875d1f7551994d1f74a0084851a441f7373a52506b1133b01,
  0x2fc832fc822d2812d2802d17f2d17e2d17d2d17c2d17b51e7a51d79536781f7751f7741f7731f7721f7711f7701f76f1f76e1f76d1f76c51c6b244623875d1f75519b4d1f74a0084851a441f7373a52506c1133b01,
  0x2fc832fc822d2812d2802d17f2d17e2d17d2d17c2d17b51e7a51d79536781f7751f7741f7731f7721f7711f7701f76f1f76e1f76d1f76c51c6b244623875d1f75519c4d1f74a0084851a441f7373a52533b01,
  0xafc83afc82ad281ad280ad17fad17ead17dad17cad17bd1e7ad1d79d36789f7759f7749f7739f7729f7719f7709f76f9f76e9f76d9f76cd1c6ba4462b875d9f75599b4d9f74a80848d1a449f737ba525b3b01,
  0x2fc832fc822d2812d2802d17f2d17e2d17d2d17c2d17b51e7a51d79536781f7751f7741f7731f7721f7711f7701f76f1f76e1f76d1f76c51c6b244623875d1f75519b4d1f74a0084851a441f7373a52533b01,
  0x3b54308f38291250c6230c6220c6210c6200c61f0c61e0c61d0c61c0c61b0c61a0c6190c61809415,
  0x3b54339f3908f38291250c6230c6220c6210c6200c61f0c61e0c61d0c61c0c61b0c61a0c6190c61852e1609415,
  0x2fc832fc822d2812d2802d17f2d17e2d17d2d17c2d17b51e7a51d79536781f7751f7741f7731f7721f7711f7701f76f1f76e1f76d1f76c51c6b1f7623875d1f7551a14d1f74a51a441f7373a525126112ba01,
  0x2fc832fc822d2812d2802d17f2d17e2d17d2d17c2d17b51e7a51d79536781f7751f7741f7731f7721f7711f7701f76f1f76e1f76d1f76c51c6b1f7623875d1f7551a34d1f74a51a441f7373a525140112ba01,
  0x3b54309238291250e1230e1220e1210e1200e11f0e11e0e11d0e11c0e11b0e11a0e1190e11808115,
  0xafc83afc82ad281ad280ad17fad17ead17dad17cad17bd1e7ad1d79d36789f7759f7749f7739f7729f7719f7709f76f9f76e9f76d9f76cd1c6b9f762b875d9f7559a34d9f74ad1a449f737ba525aba01,
  0x3b54308f38291250c6230c6220c6210c6200c61f0c61e0c61d0c61c0c61b0c61a0c6190c61808115,
  0x3b5430123b08f38291250c6230c6220c6210c6200c61f0c61e0c61d0c61c0c61b0c61a0c6190c61809415,
  0x3b54308f38291250c6230c6220c6210c6200c61f0c61e0c61d0c61c0c61b0c61a0c6190c61808415,
  0x3b5430303b08f38291250c6230c6220c6210c6200c61f0c61e0c61d0c61c0c61b0c61a0c6190c61809415,
  0x3b54304e3b08f38291250c6230c6220c6210c6200c61f0c61e0c61d0c61c0c61b0c61a0c6190c61809415,
  0x857808574085680855f0855e0865443201,
  0x2fc832fc822d2812d2802d17f2d17e2d17d2d17c2d17b51e7a51d791f7751f7741f7731f7721f7711f7701f76f1f76e1f76d1f76c51c6b1f7623875d1f7551ab4d1f74a51a441f737125112ba01,
  0x2fc832fc822d2812d2802d17f2d17e2d17d2d17c2d17b51e7a51d791f7751f7741f7731f7721f7711f7701f76f1f76e1f76d1f76c51c6b1f7623875d1f7551ac4d1f74a51a441f73713f112ba01,
  0xafc83afc82ad281ad280ad17fad17ead17dad17cad17bd1e7ad1d799f7759f7749f7739f7729f7719f7709f76f9f76e9f76d9f76cd1c6b9f762b875d9f7559ac4d9f74ad1a449f737aba01,
  0x8f380c6230c6220c6210c6200c61f0c61e0c61d0c61c0c61b0c61a0c6190c61809415,
  0x9415,
  0x39c5d55f41,
  0xb9c5dd5f41,
  0x3b54309238291250e1230e1220e1210e1200e11f0e11e0e11d0e11c0e11b0e11a0e1190e11809415,
  0xc6230c6220c6210c6200c61f0c61e0c61d0c61c0c61b0c61a0c6190c618,
  0x92380e1230e1220e1210e1200e11f0e11e0e11d0e11c0e11b0e11a0e1190e11808115,
  0x8f380c6230c6220c6210c6200c61f0c61e0c61d0c61c0c61b0c61a0c6190c61808115,
  0x39f3908f380c6230c6220c6210c6200c61f0c61e0c61d0c61c0c61b0c61a0c6190c61852e1609415,
  0x3d5432a52527d15,
  0x3b54308f38291250c6230c6220c6210c6200c61f0c61e0c61d0c61c0c61b0c61a0c6190881809415,
  0x92380e1230e1220e1210e1200e11f0e11e0e11d0e11c0e11b0e11a0e1190e11809415,
  0x8f380c6230c6220c6210c6200c61f0c61e0c61d0c61c0c61b0c61a0c6190c61808415,
  0x39c5d0a641,
  0x3d64327d15,
  0x38a5f,
  0x3fa01,
  0x8f380c6230c6220c6210c6200c61f0c61e0c61d0c61c0c61b0c61a0c6190881809415,
  0x3d5432a525,
  0x3d6432a525,
  0xe1230e1220e1210e1200e11f0e11e0e11d0e11c0e11b0e11a0e1190e118,
  0x2fc832fc822d2812d2802d17f2d17e2d17d2d17c2d17b2747527474274732747227471274702746f2746e2746d2746c2746239c5d274552744a274373a6162ba01,
  0xb9c5d8d941,
  0x3d643,
  0x2fc832fc822d2812d2802d17f2d17e2d17d2d17c2d17b2747527474274732747227471274702746f2746e2746d2746c2746239c5d274552744a274373a9162ba01,
  0x1967819674196681965f1965e1975425701,
  0x1967819674196681965f1965e1975425901,
  0x2fc832fc822d2812d2802d17f2d17e2d17d2d17c2d17b2747527474274732747227471274702746f2746e2746d2746c2746239c5d274552744a274372ba01,
  0x3b54308f382912509415,
  0x5304307b15,
  0x19848,
  0x8f3809415,
  0x1f8751f8741f8731f8721f8711f8701f86f1f86e1f86d1f86c1f8623875d1f8551f84a1f837,
  0x9f8759f8749f8739f8729f8719f8709f86f9f86e9f86d9f86c9f862b875d9f8559f84a9f837,
  0x3fb4532a430d241,
  0x3fb45331430f441,
  0x3b543092382912509415,
  0xc515,
  0x848,
  0x1de831de821dd811dd801dc7f1dc7e1dc7d1dc7c1dc7b0857808574085680855f0855e39d5d08654251371bc01,
  0x39c5d52a41,
  0xb9c5dd2a41,
  0x923809415,
  0x24e3f24e3e,
  0x1de831de821dd811dd801dc7f1dc7e1dc7d1dc7c1dc7b0857808574085680855f0855e39d5d086541bc01,
  0x24e3f24e3e0d13a247360d0350d0340d0330cd320cf310ce300cd2f0cd2e0cc2d0cc2c0cb2b0ca2a0c9290c9280c8270c8260c8250c8240c717,
  0x24e3f24e3e247360d0350d0340d0330cd320cd2f0cd2e0cc2d0cc2c0c9290c9280c8270c8260c8250c824,
  0x24e3f24e3e0d0350d0340d0330cd320cd2f0cd2e0cc2d0cc2c,
  0x24e3f24e3e247360d0350d0340d0330cd320cd2f0cd2e0cc2d0cc2c0c8270c8260c8250c824,
  0x24e3f24e3e247360d0350d0340d0330cd320cf310ce300cd2f0cd2e0cc2d0cc2c0c9290c9280c8270c8260c8250c8240c717,
  0x24e3f24e3e247360d0350d0340d0330cd320cf310ce300cd2f0cd2e0cc2d0cc2c0ca2a0c9290c9280c8270c8260c8250c8240c717,
  0x24e3f24e3e0cd320cd2f0cd2e,
  0x24e3f24e3e247360d0350d0340d0330cd320cf310cd2f0cd2e0cc2d0cc2c0c9290c9280c8270c8260c8250c8240c717,
  0x24e3f24e3e247360d0350d0340d0330cd320cd2f0cd2e0cc2d0cc2c0c9290c9280c8270c8260c8250c8240c717,
  0x24e3f24e3e0cd320cd2f0cd2e0cc2d0cc2c,
  0xdd4c24e3f24e3e0f33a0ed39247360eb350eb340eb330e8320ea310e9300e82f0e82e0e72d0e72c0e62b0e52a0e4290e4280e3270e3260e3250e3240e217,
  0x2767527674276732767227671276702766f2766e2766d2766c2766239c5d276552764a27637,
  0x5614307e15,
  0xa7675a7674a7673a7672a7671a7670a766fa766ea766da766ca7662b9c5da7655a764aa7637,
  0xef4c24e3f24e3e0d13a0d739247360d0350d0340d0330cd320cf310ce300cd2f0cd2e0cc2d0cc2c0cb2b0ca2a0c9290c9280c8270c8260c8250c8240c717,
  0x5664307f15,
  0x2fc832fc822d2812d2802d17f2d17e2d17d2d17c2d17b0857808574085680855f0855e086544f14b25a1635901,
  0x3fb45330430d241,
  0x24e3f24e3e0f33a247360eb350eb340eb330e8320ea310e9300e82f0e82e0e72d0e72c0e62b0e52a0e4290e4280e3270e3260e3250e3240e217,
  0x24e3f24e3e247360eb350eb340eb330e8320e82f0e82e0e72d0e72c0e4290e4280e3270e3260e3250e324,
  0x24e3f24e3e0eb350eb340eb330e8320e82f0e82e0e72d0e72c,
  0x24e3f24e3e247360eb350eb340eb330e8320e82f0e82e0e72d0e72c0e3270e3260e3250e324,
  0x24e3f24e3e247360eb350eb340eb330e8320ea310e9300e82f0e82e0e72d0e72c0e4290e4280e3270e3260e3250e3240e217,
  0x24e3f24e3e247360eb350eb340eb330e8320ea310e9300e82f0e82e0e72d0e72c0e52a0e4290e4280e3270e3260e3250e3240e217,
  0x24e3f24e3e0e8320e82f0e82e,
  0x24e3f24e3e247360eb350eb340eb330e8320ea310e82f0e82e0e72d0e72c0e4290e4280e3270e3260e3250e3240e217,
  0x24e3f24e3e247360eb350eb340eb330e8320e82f0e82e0e72d0e72c0e4290e4280e3270e3260e3250e3240e217,
  0x24e3f24e3e0e8320e82f0e82e0e72d0e72c,
  0x2fc832fc822d2812d2802d17f2d17e2d17d2d17c2d17b39d5d3dd3a1f9242ba01,
  0x9d4d24e3f24e3e0d13a0d639247360d0350d0340d0330cd320cf310ce300cd2f0cd2e0cc2d0cc2c0cb2b0ca2a0c9290c9280c8270c8260c8250c8240c717,
  0x2747527474274732747227471274702746f2746e2746d2746c2746239c5d2745519a4d2744a4503927437122113ab01,
  0x24e3f24e3e0d13a0d739247360d0350d0340d0330cd320cf310ce300cd2f0cd2e0cc2d0cc2c0cb2b0ca2a0c9290c9280c8270c8260c8250c8240c7171fc16,
  0x24e3f24e3e0d13a08939247360d0350d0340d0330cd320cf310ce300cd2f0cd2e0cc2d0cc2c0cb2b0ca2a0c9290c9280c8270c8260c8250c8240c71722a11,
  0x24e3f24e3e0d13a0df39247360d0350d0340d0330cd320cf310ce300cd2f0cd2e0cc2d0cc2c0cb2b0ca2a0c9290c9280c8270c8260c8250c8240c71701616,
  0x24e3f24e3e0d13a0df39247360d0350d0340d0330cd320cf310ce300cd2f0cd2e0cc2d0cc2c0cb2b0ca2a0c9290c9280c8270c8260c8250c8240c71701916,
  0x24e3f24e3e0d13a0df39247360d0350d0340d0330cd320cf310ce300cd2f0cd2e0cc2d0cc2c0cb2b0ca2a0c9290c9280c8270c8260c8250c8240c71701c16,
  0x24e3f24e3e0d13a0df39247360d0350d0340d0330cd320cf310ce300cd2f0cd2e0cc2d0cc2c0cb2b0ca2a0c9290c9280c8270c8260c8250c8240c71701d16,
  0x24e3f24e3e0d13a0df39247360d0350d0340d0330cd320cf310ce300cd2f0cd2e0cc2d0cc2c0cb2b0ca2a0c9290c9280c8270c8260c8250c8240c71702216,
  0x2fc832fc822d2812d2802d17f2d17e2d17d2d17c2d17b0857808574085680855f0855e086544f14b35901,
  0x24e3f24e3e0d13a0df39247360d0350d0340d0330cd320cf310ce300cd2f0cd2e0cc2d0cc2c0cb2b0ca2a0c9290c9280c8270c8260c8250c8240c71702516,
  0x24e3f24e3e0d13a0df39247360d0350d0340d0330cd320cf310ce300cd2f0cd2e0cc2d0cc2c0cb2b0ca2a0c9290c9280c8270c8260c8250c8240c71702616,
  0x24e3f24e3e0d13a0df39247360d0350d0340d0330cd320cf310ce300cd2f0cd2e0cc2d0cc2c0cb2b0ca2a0c9290c9280c8270c8260c8250c8240c71702c16,
  0x2fc832fc822d2812d2802d17f2d17e2d17d2d17c2d17b39d5d3dd3a1cb242ba01,
  0x24e3f24e3e0d13a0df39247360d0350d0340d0330cd320cf310ce300cd2f0cd2e0cc2d0cc2c0cb2b0ca2a0c9290c9280c8270c8260c8250c8240c71703416,
  0x24e3f24e3e0d13a0df39247360d0350d0340d0330cd320cf310ce300cd2f0cd2e0cc2d0cc2c0cb2b0ca2a0c9290c9280c8270c8260c8250c8240c71703716,
  0x24e3f24e3e0d13a0df39247360d0350d0340d0330cd320cf310ce300cd2f0cd2e0cc2d0cc2c0cb2b0ca2a0c9290c9280c8270c8260c8250c8240c71703a16,
  0x24e3f24e3e0d13a0df39247360d0350d0340d0330cd320cf310ce300cd2f0cd2e0cc2d0cc2c0cb2b0ca2a0c9290c9280c8270c8260c8250c8240c71703b16,
  0x24e3f24e3e0d13a0df39247360d0350d0340d0330cd320cf310ce300cd2f0cd2e0cc2d0cc2c0cb2b0ca2a0c9290c9280c8270c8260c8250c8240c71704016,
  0x24e3f24e3e0d13a0df39247360d0350d0340d0330cd320cf310ce300cd2f0cd2e0cc2d0cc2c0cb2b0ca2a0c9290c9280c8270c8260c8250c8240c71704316,
  0x24e3f24e3e0d13a0df39247360d0350d0340d0330cd320cf310ce300cd2f0cd2e0cc2d0cc2c0cb2b0ca2a0c9290c9280c8270c8260c8250c8240c71704416,
  0x24e3f24e3e0d13a0df39247360d0350d0340d0330cd320cf310ce300cd2f0cd2e0cc2d0cc2c0cb2b0ca2a0c9290c9280c8270c8260c8250c8240c71704a16,
  0x24e3f24e3e0d13a0df39247360d0350d0340d0330cd320cf310ce300cd2f0cd2e0cc2d0cc2c0cb2b0ca2a0c9290c9280c8270c8260c8250c8240c71705216,
  0x24e3f24e3e0d13a0df39247360d0350d0340d0330cd320cf310ce300cd2f0cd2e0cc2d0cc2c0cb2b0ca2a0c9290c9280c8270c8260c8250c8240c71705516,
  0x24e3f24e3e0d13a0df39247360d0350d0340d0330cd320cf310ce300cd2f0cd2e0cc2d0cc2c0cb2b0ca2a0c9290c9280c8270c8260c8250c8240c71705816,
  0x24e3f24e3e0d13a0df39247360d0350d0340d0330cd320cf310ce300cd2f0cd2e0cc2d0cc2c0cb2b0ca2a0c9290c9280c8270c8260c8250c8240c71705916,
  0x24e3f24e3e0d13a0df39247360d0350d0340d0330cd320cf310ce300cd2f0cd2e0cc2d0cc2c0cb2b0ca2a0c9290c9280c8270c8260c8250c8240c71705e16,
  0x24e3f24e3e0d13a0df39247360d0350d0340d0330cd320cf310ce300cd2f0cd2e0cc2d0cc2c0cb2b0ca2a0c9290c9280c8270c8260c8250c8240c71706116,
  0x24e3f24e3e0d13a0df39247360d0350d0340d0330cd320cf310ce300cd2f0cd2e0cc2d0cc2c0cb2b0ca2a0c9290c9280c8270c8260c8250c8240c71706216,
  0x24e3f24e3e0d13a0df39247360d0350d0340d0330cd320cf310ce300cd2f0cd2e0cc2d0cc2c0cb2b0ca2a0c9290c9280c8270c8260c8250c8240c71706816,
  0xba4d24e3f24e3e0d13a0d639247360d0350d0340d0330cd320cf310ce300cd2f0cd2e0cc2d0cc2c0cb2b0ca2a0c9290c9280c8270c8260c8250c8240c717,
  0xbe4d24e3f24e3e0d13a0d639247360d0350d0340d0330cd320cf310ce300cd2f0cd2e0cc2d0cc2c0cb2b0ca2a0c9290c9280c8270c8260c8250c8240c717,
  0x4ad86341841967819674196681965f1965e39c5d1975435b4b52b4352a4137301,
  0x1074d24e3f24e3e0d43b0d13a247360d0350d0340d0330cd320cf310ce300cd2f0cd2e0cc2d0cc2c0cb2b0ca2a0c9290c9280c8270c8260c8250c8240c717,
  0x3b54329125,
  0xb9d5d,
  0x2fc832fc822d2812d2802d17f2d17e2d17d2d17c2d17b39d5d3dd3a2ba01,
  0x2fc832fc822d2812d2802d17f2d17e2d17d2d17c2d17b5297a52879527785266b525443a52533c01,
  0x2747527474274732747227471274702746f2746e2746d2746c2746239c5d2745519a4d2744a27437155113ab01,
  0x2747527474274732747227471274702746f2746e2746d2746c2746239c5d2745519a4d2744a27437169113ab01,
  0x3b74329125,
  0x1054d24e3f24e3e0d13a247360d0350d0340d0330cd320cf310ce300cd2f0cd2e0cc2d0cc2c0cb2b0ca2a0c9290c9280c8270c8260c8250c8240c717,
  0x2fc832fc822d2812d2802d17f2d17e2d17d2d17c2d17b5297a52879527785266b525443a5252ba01,
  0x2fc832fc822d2812d2802d17f2d17e2d17d2d17c2d17b38c6938a5f52d5e39d5d2ba01,
  0x24e3f24e3e0d13a247360d0350d0340d0330cd320cf310ce300cd2f0cd2e0cc2d0cc2c0cb2b0ca2a0c9290c9280c8270c8260c8250c8240c71706e16,
  0x10b4d24e3f24e3e0d13a247360d0350d0340d0330cd320cf310ce300cd2f0cd2e0cc2d0cc2c0cb2b0ca2a0c9290c9280c8270c8260c8250c8240c717,
  0x10c4d24e3f24e3e0d13a247360d0350d0340d0330cd320cf310ce300cd2f0cd2e0cc2d0cc2c0cb2b0ca2a0c9290c9280c8270c8260c8250c8240c717,
  0x10e4d24e3f24e3e0d13a247360d0350d0340d0330cd320cf310ce300cd2f0cd2e0cc2d0cc2c0cb2b0ca2a0c9290c9280c8270c8260c8250c8240c717,
  0x24e3f24e3e0d13a247360d0350d0340d0330cd320cf310ce300cd2f0cd2e0cc2d0cc2c0cb2b0ca2a0c9290c9280c8270c8260c8250c8240c71740511,
  0x2fc832fc822d2812d2802d17f2d17e2d17d2d17c2d17b39d5d2ba01,
  0x24e3f24e3e0d83b0d13a247360d0350d0340d0330cd320cf310ce300cd2f0cd2e0cc2d0cc2c0cb2b0ca2a0c9290c9280c8270c8260c8250c8240c717,
  0x1b34224e3f24e3e0d13a247360d0350d0340d0330cd320cf310ce300cd2f0cd2e0cc2d0cc2c0cb2b0ca2a0c9290c9280c8270c8260c8250c8240c717,
  0x1fe4224e3f24e3e0d13a247360d0350d0340d0330cd320cf310ce300cd2f0cd2e0cc2d0cc2c0cb2b0ca2a0c9290c9280c8270c8260c8250c8240c717,
  0x1364d24e3f24e3e0d13a247360d0350d0340d0330cd320cf310ce300cd2f0cd2e0cc2d0cc2c0cb2b0ca2a0c9290c9280c8270c8260c8250c8240c717,
  0x9f4d24e3f24e3e0d13a247360d0350d0340d0330cd320cf310ce300cd2f0cd2e0cc2d0cc2c0cb2b0ca2a0c9290c9280c8270c8260c8250c8240c717,
  0xa24d24e3f24e3e0d13a247360d0350d0340d0330cd320cf310ce300cd2f0cd2e0cc2d0cc2c0cb2b0ca2a0c9290c9280c8270c8260c8250c8240c717,
  0x2004224e3f24e3e0d13a247360d0350d0340d0330cd320cf310ce300cd2f0cd2e0cc2d0cc2c0cb2b0ca2a0c9290c9280c8270c8260c8250c8240c717,
  0xa34d24e3f24e3e0d13a247360d0350d0340d0330cd320cf310ce300cd2f0cd2e0cc2d0cc2c0cb2b0ca2a0c9290c9280c8270c8260c8250c8240c717,
  0xa54d24e3f24e3e0d13a247360d0350d0340d0330cd320cf310ce300cd2f0cd2e0cc2d0cc2c0cb2b0ca2a0c9290c9280c8270c8260c8250c8240c717,
  0x24e3f24e3e0d13a247360d0350d0340d0330cd320cf310ce300cd2f0cd2e0cc2d0cc2c0cb2b0ca2a0c9290c9280c8270c8260c8250c8240c71702016,
  0x24e3f24e3e0d13a247360d0350d0340d0330cd320cf310ce300cd2f0cd2e0cc2d0cc2c0cb2b0ca2a0c9290c9280c8270c8260c8250c8240c71702816,
  0x24e3f24e3e0d13a247360d0350d0340d0330cd320cf310ce300cd2f0cd2e0cc2d0cc2c0cb2b0ca2a0c9290c9280c8270c8260c8250c8240c7173d411,
  0x24e3f24e3e0ee3b0d13a247360d0350d0340d0330cd320cf310ce300cd2f0cd2e0cc2d0cc2c0cb2b0ca2a0c9290c9280c8270c8260c8250c8240c717,
  0x2404224e3f24e3e0d13a247360d0350d0340d0330cd320cf310ce300cd2f0cd2e0cc2d0cc2c0cb2b0ca2a0c9290c9280c8270c8260c8250c8240c717,
  0x24e3f24e3e0d13a247360d0350d0340d0330cd320cf310ce300cd2f0cd2e0cc2d0cc2c0cb2b0ca2a0c9290c9280c8270c8260c8250c8240c71703e16,
  0x24e3f24e3e0d13a247360d0350d0340d0330cd320cf310ce300cd2f0cd2e0cc2d0cc2c0cb2b0ca2a0c9290c9280c8270c8260c8250c8240c71704616,
  0x24e3f24e3e0d13a247360d0350d0340d0330cd320cf310ce300cd2f0cd2e0cc2d0cc2c0cb2b0ca2a0c9290c9280c8270c8260c8250c8240c71705c16,
  0x24e3f24e3e0d13a247360d0350d0340d0330cd320cf310ce300cd2f0cd2e0cc2d0cc2c0cb2b0ca2a0c9290c9280c8270c8260c8250c8240c71706416,
  0xaa4d24e3f24e3e0d13a247360d0350d0340d0330cd320cf310ce300cd2f0cd2e0cc2d0cc2c0cb2b0ca2a0c9290c9280c8270c8260c8250c8240c717,
  0xac4d24e3f24e3e0d13a247360d0350d0340d0330cd320cf310ce300cd2f0cd2e0cc2d0cc2c0cb2b0ca2a0c9290c9280c8270c8260c8250c8240c717,
  0xad4d24e3f24e3e0d13a247360d0350d0340d0330cd320cf310ce300cd2f0cd2e0cc2d0cc2c0cb2b0ca2a0c9290c9280c8270c8260c8250c8240c717,
  0xaf4d24e3f24e3e0d13a247360d0350d0340d0330cd320cf310ce300cd2f0cd2e0cc2d0cc2c0cb2b0ca2a0c9290c9280c8270c8260c8250c8240c717,
  0xb24d24e3f24e3e0d13a247360d0350d0340d0330cd320cf310ce300cd2f0cd2e0cc2d0cc2c0cb2b0ca2a0c9290c9280c8270c8260c8250c8240c717,
  0xb44d24e3f24e3e0d13a247360d0350d0340d0330cd320cf310ce300cd2f0cd2e0cc2d0cc2c0cb2b0ca2a0c9290c9280c8270c8260c8250c8240c717,
  0xb54d24e3f24e3e0d13a247360d0350d0340d0330cd320cf310ce300cd2f0cd2e0cc2d0cc2c0cb2b0ca2a0c9290c9280c8270c8260c8250c8240c717,
  0xb74d24e3f24e3e0d13a247360d0350d0340d0330cd320cf310ce300cd2f0cd2e0cc2d0cc2c0cb2b0ca2a0c9290c9280c8270c8260c8250c8240c717,
  0x1967819674196681965f1965e39c5d1975435b4b52b4352a4135c01,
  0x3b743,
  0x1967819674196681965f1965e39c5d1975435b4b52b4352a4135b01,
  0x2fc832fc822d2812d2802d17f2d17e2d17d2d17c2d17b39d5d3e33a2ba01,
  0x2747527474274732747227471274702746f2746e2746d2746c2746239c5d274552744a274373ab01,
  0x36683366822d2812d2802d17f2d17e2d17d2d17c2d17b39d5d2912534e01,
  0x36883368822d2812d2802d17f2d17e2d17d2d17c2d17b39d5d2912535001,
  0x2fc832fc822d2812d2802d17f2d17e2d17d2d17c2d17b5297a52879527785266b525442ba01,
  0x1967819674196681965f1965e39c5d1975435b4b52a4135c01,
  0x4d9834d9822d2812d2802d17f2d17e2d17d2d17c2d17b39d5d291253e901,
  0x2fc832fc822d2812d2802d17f2d17e2d17d2d17c2d17b39d5d35801,
  0x4ad86341841967819674196681965f1965e39c5d1975435b4b52a4137301,
  0x4f2834f2822d2812d2802d17f2d17e2d17d2d17c2d17b39d5d291253f001,
  0x1de831de821dd811dd801dc7f1dc7e1dc7d1dc7c1dc7b39d5d1c901,
  0x37183371822d2812d2802d17f2d17e2d17d2d17c2d17b39d5d2912535301,
  0x37283372822d2812d2802d17f2d17e2d17d2d17c2d17b39d5d2912535501,
  0x1967819674196681965f1965e39c5d1975435b4b52a4135b01,
  0x2fc832fc822d2812d2802d17f2d17e2d17d2d17c2d17b5297a528795266b525442ba01,
  0x1967819674196681965f1965e39c5d1975435b4b52a4136901,
  0x1967819674196681965f1965e39c5d1975435b4b52a4136a01,
  0x4b2834b2822d2812d2802d17f2d17e2d17d2d17c2d17b39d5d3de01,
  0x531871b2860857808574085680855f0855e08654315402912537c0c3b00b1ae01,
  0x346841967819674196681965f1965e39c5d1975435b4b52a4135b01,
  0x4ca834ca822d2812d2802d17f2d17e2d17d2d17c2d17b39d5d3e401,
  0x4cd834cd822d2812d2802d17f2d17e2d17d2d17c2d17b39d5d3e601,
  0x341841967819674196681965f1965e39c5d1975435b4b52a4135b01,
  0x4e5834e5822d2812d2802d17f2d17e2d17d2d17c2d17b39d5d3eb01,
  0x479871b2860857808574085680855f0855e08654315402912537c0c3b00b1ae01,
  0x5628723f861967819674196681965f1965e19754315402912537c0c3b00b1f501,
  0x3b5432912509415,
  0x857808574085680855f0855e39c5d0865452b4352a4146701,
  0x39c5d52a4134b30,
  0x857808574085680855f0855e39c5d0865452b4352a4150701,
  0x857808574085680855f0855e39c5d0865452a414bd01,
  0x8483b543291251d215,
  0x2fc832fc822d2812d2802d17f2d17e2d17d2d17c2d17b2ba01,
  0x1967819674196681965f1965e39d5d1975435b4b35b01,
  0x857808574085680855f0855e39c5d0865452a4150701,
  0x39c5d3b543095412912509415,
  0x39c5d3b743095412912509415,
  0x4c58639c5d52a4153501,
  0x3b543291251d215,
  0x3b5432912527d15,
  0x39c5d3b7430954109415,
  0x39c5d52a411d215,
  0x39267391663906538f6335f6012011,
  0x8578085740856839462394610855f0855e086544ec01,
  0x39267391663906538f6335f6013a11,
  0x8578085740856839462394610855f0855e0865450301,
  0xb9267b9166b9065b8f63b5f60,
  0x3b74327d15,
  0x39c5d0954109415,
  0x531871b2860857808574085680855f0855e08654291251ae01,
  0x39c5d52a4155115,
  0x39c5d52a4155515,
  0x5628723f861967819674196681965f1965e19754291251f501,
  0x39c5d09541,
  0x39c5d4c44352a41,
  0x1967819674196681965f1965e1975435b4b35b01,
  0x1b4860857808574085680855f0855e08654291251af01,
  0xb9462b9461,
  0x39c5d25d4d08d4a52a41,
  0x39c5d25e4d08d4a52a41,
  0x242861967819674196681965f1965e19754291251f601,
  0x37e1337e120f2103b20f3b20e2080c,
  0x8578085740856838b620855f0855e086544ab01,
  0x38113381120f2103b20f3b20e20b0c,
  0x39c5d52b4352a41,
  0x2de772dd7619848301463a525,
  0xb8113b81128f210bb20fbb20e,
  0x34b30,
  0xb4b30,
  0x857808574085680855f0855e086541e701,
  0x857808574085680855f0855e086544aa01,
  0x857808574085680855f0855e0865443e01,
  0x857808574085680855f0855e086544b601,
  0x857808574085680855f0855e086544bf01,
  0x4d24a0874907111,
  0x857808574085680855f0855e0865445601,
  0x857808574085680855f0855e0865446001,
  0x857808574085680855f0855e0865446101,
  0x857808574085680855f0855e086544ed01,
  0x857808574085680855f0855e086544ee01,
  0x857808574085680855f0855e0865454e01,
  0x857808574085680855f0855e0865442601,
  0x857808574085680855f0855e0865442701,
  0x857808574085680855f0855e0865442801,
  0x513870857808574085680855f0855e086544d801,
  0x857808574085680855f0855e0865448101,
  0x857808574085680855f0855e0865448301,
  0x1967819674196681965f1965e1975427501,
  0x28e7828e7428e6828e5f28e5e28f5427a01,
  0x2de771a0482df463a525,
  0x857808574085680855f0855e086544c001,
  0x2de772dd761984830146,
  0x857808574085680855f0855e086544d801,
  0x857808574085680855f0855e0865450601,
  0x39d5d3f801,
  0x4d24a08e4907211,
  0x1984809415,
  0x3b1130c4103b10d2070b,
  0x3b8130c4103b80d20a0b,
  0x39d5d3fe01,
  0x39d5d2bc01,
  0x39c5d53341,
  0x39d5d2bd01,
  0xbb8138c410bb80d,
  0x39c5d09a41,
  0x2de772dd7619848,
  0x2de771a0482df46,
  0x39d5d2c001,
  0x39d5d2c101,
  0x4d24a0874907211,
  0x39c5d0dc41,
  0xcd24a88749,
  0xdd4c0ed39,
  0x39d5d1d501,
  0x39d5d1d701,
  0xb9c5d,
  0x39d5d1d801,
  0x39d5d1da01,
  0x39c5d56441,
  0x39c5d0a741,
  0x3038730346,
  0x3b7432912509415,
  0x19a4d2c33913c11,
  0x19a4d2c63915511,
  0x8d739,
  0xb0539,
  0x8ed39,
  0xef4c0d739,
  0xd480fe15,
  0x3fb452ff170d316,
  0x30046,
  0x2dd7629348,
  0x3a5251d215,
  0x20d402912520d01,
  0x9018,
  0x30285,
  0x2de7719848,
  0x2dd7619848,
  0x2de771a048,
  0x30417,
  0x3028500548,
  0x30539,
  0xdb3b09018,
  0xdd4c,
  0xe03b09018,
  0xb0417,
  0x3fb453674309415,
  0xb0a39,
  0x3ce4d5304339a39,
  0x3cf4d5304339a39,
  0x3d04d5304339b39,
  0x3fb452ff170ec16,
  0xf53b09018,
  0xf63b09018,
  0xf73b09018,
  0xf83b09018,
  0x1864d00848,
  0x1e3393a716,
  0x3a83934224,
  0x35e4853043,
  0x1894d00848,
  0x37539,
  0x39f3953416,
  0x2ff1719416,
  0x4c58653501,
  0x1e3393a916,
  0x3a83934824,
  0x2be391fb24,
  0x3b74309415,
  0xf94d53916,
  0x53c2e1d401,
  0xb9f39,
  0xaff17,
  0xd3501,
  0x9e339,
  0x1e3393ac16,
  0x4e18653501,
  0xba839,
  0x2be391fd24,
  0xfa4d54416,
  0xa14d0d639,
  0x3933922816,
  0x19a4d13c11,
  0xd7391ff16,
  0xb7539,
  0x1e3393af16,
  0xabe39,
  0x893922a11,
  0x8ff4d,
  0x8d639,
  0x823942211,
  0x3933923416,
  0x396643c84d53043,
  0x397643c94d53043,
  0x29c3925b16,
  0x8a3923611,
  0xdf3901b16,
  0xdf3902116,
  0x833942511,
  0xb9339,
  0x29c3925c16,
  0x89139,
  0x8df39,
  0xdf3902316,
  0xdf3902416,
  0xdf3902916,
  0x88c39,
  0xa9c39,
  0x3764309415,
  0xdf3902a16,
  0xdf3902b16,
  0x3d14d39a39,
  0x3d24d39a39,
  0x3d34d39b39,
  0x25f4d08d4a,
  0xdf3902d16,
  0x53043,
  0xb9a39,
  0xb9b39,
  0x2614d08d4a,
  0x2be391cd24,
  0x2be391cf24,
  0x393392a216,
  0xef4c,
  0x393392a316,
  0x393392cf16,
  0x393392d016,
  0x2ff1719516,
  0xdf3903916,
  0xdf3903f16,
  0xdf3904116,
  0xdf3904216,
  0xdf3904716,
  0xdf3904816,
  0xdf3904916,
  0xdf3904b16,
  0xdf3905716,
  0xdf3905d16,
  0xdf3905f16,
  0xdf3906016,
  0xdf3906516,
  0xdf3906616,
  0xdf3906716,
  0xdf3906916,
  0xbb4d0d639,
  0xbf4d0d639,
  0x1024d52301,
  0x1034d52401,
  0x3fb4536743,
  0x1e0393a716,
  0x38d48,
  0xd48,
  0x1114d53043,
  0x1124d43f43,
  0x1aa48,
  0x8048,
  0x1214d44f43,
  0x29348,
  0x1d215,
  0x1a048,
  0x21a4021a01,
  0x27d15,
  0x12f4d53043,
  0x18c3b07d38,
  0x548,
  0x3c74d53043,
  0x3ca4d53043,
  0x3986853043,
  0x50e8750e86,
  0x3cb4d53043,
  0x3cc4d53043,
  0x3cd4d53043,
  0x3fb4536b43,
  0x4f5b,
  0x38001,
  0x7615,
  0x3f901,
  0x4ac01,
  0x39e01,
  0x8f38,
  0x3fb45,
  0x4b450,
  0x1094d,
  0x10a4d,
  0x38201,
  0x40201,
  0x40301,
  0x4bc01,
  0x3a201,
  0x27b42,
  0x21044,
  0x1174d,
  0x38e5f,
  0x1e415,
  0x1d401,
  0x37643,
  0x12e4d,
  0x27e42,
  0x4c443,
  0x1374d,
  0xda18,
  0x22816,
  0x13b4d,
  0x13c11,
  0x3ae01,
  0x22a11,
  0x2334d,
  0x18c3b,
  0x7d38,
  0xde18,
  0x50016,
  0x42211,
  0x1544d,
  0x15511,
  0x2454d,
  0x23a4d,
  0x8b18,
  0x16911,
  0x2464d,
  0x37916,
  0x18d4d,
  0x17811,
  0x37a16,
  0x18e4d,
  0x2604d,
  0x18f4d,
  0x2624d,
  0x2634d,
  0x1904d,
  0x2644d,
  0x9238,
  0x1cc42,
  0x1d64d,
  0x27701,
  0x37b43,
  0x1d94d,
  0x1ce42,
  0x2a216,
  0x29001,
  0x2cf16,
  0x7715,
  0x7815]

end JavaNaming.Java.Grammar
