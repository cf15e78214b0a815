/-!
# Goto rows

The distinct rows of the goto table. A row packs nineteen bits for each nonterminal, by increasing
nonterminal from the low end: eight bits for the nonterminal and eleven for the state entered.
-/

namespace JavaNaming.Java.Grammar

/-- The distinct goto rows. -/
def gotoRows : Array Nat := #[
  0x0,
  0x3ef60b5664014a1ad9300522402429045c2f895f910bf21d7e4333f8566508e260d7ec0d2180202ee405cc80b930e615a8c04057c80ad90159202b04053c80272064940c908191c802310045200884010c80201003b20074400e4801c100372006c400d4801a1003320064400c480180022f0f4488087d010e9b81c404366e069028ca02184042e80859010a204134962492c4525885200f4961c92c35258624b0b49614b4c250182a030440206808080100d1f00,
  0x7dec16acc8039435b2600e4480485208b85f12bf2217e43afc8667f0acca11c4c1afd81a4300405dc80b99017261cc2b518080af9015b202b24056080a79004e40c92819210323900462008a4011080219004020076400e8801c900382006e400d8801a9003420066400c88018900300065e1e891010fa021d370388086cdc0d20519404308085d010b202144082692c492588a4b10a401e92c392586a4b0c4961692c296984a0305406088040d010100301,
  0x1f7b000f42616816acc9ad93201214822d7e442fc875f90ccfe1599423898360f034860080bb90173202e4c498080af9015b202b24056080a79004e40c92819210323900462008a4011080219004020076400e8801c900382006e400d8801a9003420066400c880189003000e5f508a03c922021f4043a6e071010d9b81a40a3280861010ba0216404288104d258924b11496214803d258724b0d4961892c2d25852d3094060a80c110081a0202,
  0x1f7b001742b5664d6c990090a4116bf2217e43afc8667f0acca11c4c1b0781a4300405dc80b990172014dcc498080af9015b202b24056080a79004e40c92819210323900462008a4011080219004020076400e8801c900382006e400d8801a9003420066400c88018900300165e1e4927e902021f4043a6e071010d9b81a40a3280861010ba021640428a004d258924b11496214803d258724b0d4961892c2d25852d3094060a80c110081a0202,
  0x7dec00350ad59935b26402429045afc885f90ebf2199fc2b328471306c1e0690c010177202e6405c989301015f202b64056480ac1014f2009c819250324206472008c4011480221004320080400ec801d1003920070400dc801b1003520068400cc80191003120060018bc3c922021f4043a6e071010d9b81a40a3280861010ba0216404288104d258924b11496214803d258724b0d4961892c2d25852d3094060a80c110081a0202,
  0x7dec004d0ad59935b26402429045afc885f90ebf2199fc2b328471306c1e0690c010177202e6405c989301015f202b64056480ac1014f2009c819250324206472008c4011480221004320080400ec801d1003920070400dc801b1003520068400cc80191003120060024bc3c922021f4043a6e071010d9b81a40a3280861010ba0216404288104d258924b11496214803d258724b0d4961892c2d25852d3094060a80c110081a0202,
  0x7dec00650ad59935b26402429045afc885f90ebf2199fc2b328471306c1e0690c010177202e6405c989301015f202b64056480ac1014f2009c819250324206472008c4011480221004320080400ec801d1003920070400dc801b1003520068400cc80191003120060030bc3c922021f4043a6e071010d9b81a40a3280861010ba0216404288104d258924b11496214803d258724b0d4961892c2d25852d3094060a80c110081a0202,
  0x7dec00750ad59935b26402429045afc885f90ebf2199fc2b328471306c1e0690c010177202e6405c989301015f202b64056480ac1014f2009c819250324206472008c4011480221004320080400ec801d1003920070400dc801b1003520068400cc80191003120060038bc3c922021f4043a6e071010d9b81a40a3280861010ba0216404288104d258924b11496214803d258724b0d4961892c2d25852d3094060a80c110081a0202,
  0xfbd82d59935b26402429045afc885f90ebf2199fc2b328471306c1e0690c010177202e6405c989301015f202b64056480ac1014f2009c819250324206472008c4011480221004320080400ec801d1003920070400dc801b1003520068400cc80191003120061488bd52122021f4043a6e071010d9b81a40a3280861010ba0216404288104d258924b11496214803d258724b0d4961892c2d25852d3094060a80c110081a0202,
  0xfbd82d59935b26402429045afc885f90ebf2199fc2b328471306c1e0690c010177202e6405c989301015f202b64056480ac1014f2009c819250324206472008c4011480221004320080400ec801d1003920070400dc801b1003520068400cc80191003120060420bc3d122021f4043a6e071010d9b81a40a3280861010ba0216404288104d258924b11496214803d258724b0d4961892c2d25852d3094060a80c110081a0202,
  0xfbd82d59935b26402429045afc885f90ebf2199fc2b328471306c1e0690c010177202e6405c989301015f202b64056480ac1014f2009c819250324206472008c4011480221004320080400ec801d1003920070400dc801b1003520068400cc80191003120060620bc3d122021f4043a6e071010d9b81a40a3280861010ba0216404288104d258924b11496214803d258724b0d4961892c2d25852d3094060a80c110081a0202,
  0xfbd82d59935b26402429045afc885f90ebf2199fc2b328471306c1e0690c010177202e6405c989301015f202b64056480ac1014f2009c819250324206472008c4011480221004320080400ec801d1003920070400dc801b1003520068400cc80191003120060458bc3d122021f4043a6e071010d9b81a40a3280861010ba0216404288104d258924b11496214803d258724b0d4961892c2d25852d3094060a80c110081a0202,
  0xfbd82d59935b26402429045afc885f90ebf2199fc2b328471306c1e0690c010177202e6405c989301015f202b64056480ac1014f2009c819250324206472008c4011480221004320080400ec801d1003920070400dc801b1003520068400cc801910031200604e4bc3d122021f4043a6e071010d9b81a40a3280861010ba0216404288104d258924b11496214803d258724b0d4961892c2d25852d3094060a80c110081a0202,
  0xfbd82d59935b26402429045afc885f90ebf2199fc2b328471306c1e0690c010177202e6405c989301015f202b64056480ac1014f2009c819250324206472008c4011480221004320080400ec801d1003920070400dc801b1003520068400cc80191003120060548bc3d122021f4043a6e071010d9b81a40a3280861010ba0216404288104d258924b11496214803d258724b0d4961892c2d25852d3094060a80c110081a0202,
  0xfbd82d59935b26402429045afc885f90ebf2199fc2b328471306c1e0690c010177202e6405c989301015f202b64056480ac1014f2009c819250324206472008c4011480221004320080400ec801d1003920070400dc801b1003520068400cc8019100312006054cbc3d122021f4043a6e071010d9b81a40a3280861010ba0216404288104d258924b11496214803d258724b0d4961892c2d25852d3094060a80c110081a0202,
  0xfbd82d59935b26402429045afc885f90ebf2199fc2b328471306c1e0690c010177202e6405c989301015f202b64056480ac1014f2009c819250324206472008c4011480221004320080400ec801d1003920070400dc801b1003520068400cc80191003120060590bc3d122021f4043a6e071010d9b81a40a3280861010ba0216404288104d258924b11496214803d258724b0d4961892c2d25852d3094060a80c110081a0202,
  0xfbd82d59935b26402429045afc885f90ebf2199fc2b328471306c1e0690c010177202e6405c989301015f202b64056480ac1014f2009c819250324206472008c4011480221004320080400ec801d1003920070400dc801b1003520068400cc80191003120060594bc3d122021f4043a6e071010d9b81a40a3280861010ba0216404288104d258924b11496214803d258724b0d4961892c2d25852d3094060a80c110081a0202,
  0xfbd82d59935b26402429045afc885f90ebf2199fc2b328471306c1e0690c010177202e6405c989301015f202b64056480ac1014f2009c819250324206472008c4011480221004320080400ec801d1003920070400dc801b1003520068400cc80191003120060598bc3d122021f4043a6e071010d9b81a40a3280861010ba0216404288104d258924b11496214803d258724b0d4961892c2d25852d3094060a80c110081a0202,
  0xfbd82d59935b26402429045afc885f90ebf2199fc2b328471306c1e0690c010177202e6405c989301015f202b64056480ac1014f2009c819250324206472008c4011480221004320080400ec801d1003920070400dc801b1003520068400cc8019100312006059cbc3d122021f4043a6e071010d9b81a40a3280861010ba0216404288104d258924b11496214803d258724b0d4961892c2d25852d3094060a80c110081a0202,
  0xfbd82d59935b26402429045afc885f90ebf2199fc2b328471306c1e0690c010177202e6405c989301015f202b64056480ac1014f2009c819250324206472008c4011480221004320080400ec801d1003920070400dc801b1003520068400cc801910031200605a0bc3d122021f4043a6e071010d9b81a40a3280861010ba0216404288104d258924b11496214803d258724b0d4961892c2d25852d3094060a80c110081a0202,
  0xfbd82d59935b26402429045afc885f90ebf2199fc2b328471306c1e0690c010177202e6405c989301015f202b64056480ac1014f2009c819250324206472008c4011480221004320080400ec801d1003920070400dc801b1003520068400cc801910031200605c0bc3d122021f4043a6e071010d9b81a40a3280861010ba0216404288104d258924b11496214803d258724b0d4961892c2d25852d3094060a80c110081a0202,
  0xfbd82d59935b26402429045afc885f90ebf2199fc2b328471306c1e0690c010177202e6405c989301015f202b64056480ac1014f2009c819250324206472008c4011480221004320080400ec801d1003920070400dc801b1003520068400cc801910031200605c4bc3d122021f4043a6e071010d9b81a40a3280861010ba0216404288104d258924b11496214803d258724b0d4961892c2d25852d3094060a80c110081a0202,
  0xfbd82d59935b26402429045afc885f90ebf2199fc2b328471306c1e0690c010177202e6405c989301015f202b64056480ac1014f2009c819250324206472008c4011480221004320080400ec801d1003920070400dc801b1003520068400cc801910031200605c8bc3d122021f4043a6e071010d9b81a40a3280861010ba0216404288104d258924b11496214803d258724b0d4961892c2d25852d3094060a80c110081a0202,
  0xfbd82d59935b26402429045afc885f90ebf2199fc2b328471306c1e0690c010177202e6405c989301015f202b64056480ac1014f2009c819250324206472008c4011480221004320080400ec801d1003920070400dc801b1003520068400cc801910031200605ccbc3d122021f4043a6e071010d9b81a40a3280861010ba0216404288104d258924b11496214803d258724b0d4961892c2d25852d3094060a80c110081a0202,
  0xfbd82d59935b26402429045afc885f90ebf2199fc2b328471306c1e0690c010177202e6405c989301015f202b64056480ac1014f2009c819250324206472008c4011480221004320080400ec801d1003920070400dc801b1003520068400cc801910031200605d0bc3d122021f4043a6e071010d9b81a40a3280861010ba0216404288104d258924b11496214803d258724b0d4961892c2d25852d3094060a80c110081a0202,
  0xfbd82d59935b26402429045afc885f90ebf2199fc2b328471306c1e0690c010177202e6405c989301015f202b64056480ac1014f2009c819250324206472008c4011480221004320080400ec801d1003920070400dc801b1003520068400cc801910031200605d4bc3d122021f4043a6e071010d9b81a40a3280861010ba0216404288104d258924b11496214803d258724b0d4961892c2d25852d3094060a80c110081a0202,
  0xfbd82d59935b26402429045afc885f90ebf2199fc2b328471306c1e0690c010177202e6405c989301015f202b64056480ac1014f2009c819250324206472008c4011480221004320080400ec801d1003920070400dc801b1003520068400cc801910031200605d8bc3d122021f4043a6e071010d9b81a40a3280861010ba0216404288104d258924b11496214803d258724b0d4961892c2d25852d3094060a80c110081a0202,
  0xfbd82d59935b26402429045afc885f90ebf2199fc2b328471306c1e0690c010177202e6405c989301015f202b64056480ac1014f2009c819250324206472008c4011480221004320080400ec801d1003920070400dc801b1003520068400cc801910031200605dcbc3d122021f4043a6e071010d9b81a40a3280861010ba0216404288104d258924b11496214803d258724b0d4961892c2d25852d3094060a80c110081a0202,
  0xfbd82d59935b26402429045afc885f90ebf2199fc2b328471306c1e0690c010177202e6405c989301015f202b64056480ac1014f2009c819250324206472008c4011480221004320080400ec801d1003920070400dc801b1003520068400cc801910031200605e8bc3d122021f4043a6e071010d9b81a40a3280861010ba0216404288104d258924b11496214803d258724b0d4961892c2d25852d3094060a80c110081a0202,
  0xfbd82d59935b26402429045afc885f90ebf2199fc2b328471306c1e0690c010177202e6405c989301015f202b64056480ac1014f2009c819250324206472008c4011480221004320080400ec801d1003920070400dc801b1003520068400cc801910031200605ecbc3d122021f4043a6e071010d9b81a40a3280861010ba0216404288104d258924b11496214803d258724b0d4961892c2d25852d3094060a80c110081a0202,
  0xfbd82d59935b26402429045afc885f90ebf2199fc2b328471306c1e0690c010177202e6405c989301015f202b64056480ac1014f2009c819250324206472008c4011480221004320080400ec801d1003920070400dc801b1003520068400cc801910031200605f0bc3d122021f4043a6e071010d9b81a40a3280861010ba0216404288104d258924b11496214803d258724b0d4961892c2d25852d3094060a80c110081a0202,
  0xfbd82d59935b26402429045afc885f90ebf2199fc2b328471306c1e0690c010177202e6405c989301015f202b64056480ac1014f2009c819250324206472008c4011480221004320080400ec801d1003920070400dc801b1003520068400cc801910031200605f4bc3d122021f4043a6e071010d9b81a40a3280861010ba0216404288104d258924b11496214803d258724b0d4961892c2d25852d3094060a80c110081a0202,
  0xfbd82d59935b26402429045afc885f90ebf2199fc2b328471306c1e0690c010177202e6405c989301015f202b64056480ac1014f2009c819250324206472008c4011480221004320080400ec801d1003920070400dc801b1003520068400cc801910031200605f8bc3d122021f4043a6e071010d9b81a40a3280861010ba0216404288104d258924b11496214803d258724b0d4961892c2d25852d3094060a80c110081a0202,
  0xfbd82d59935b26402429045afc885f90ebf2199fc2b328471306c1e0690c010177202e6405c989301015f202b64056480ac1014f2009c819250324206472008c4011480221004320080400ec801d1003920070400dc801b1003520068400cc801910031200605fcbc3d122021f4043a6e071010d9b81a40a3280861010ba0216404288104d258924b11496214803d258724b0d4961892c2d25852d3094060a80c110081a0202,
  0xfbd82d59935b26402429045afc885f90ebf2199fc2b328471306c1e0690c010177202e6405c989301015f202b64056480ac1014f2009c819250324206472008c4011480221004320080400ec801d1003920070400dc801b1003520068400cc80191003120060600bc3d122021f4043a6e071010d9b81a40a3280861010ba0216404288104d258924b11496214803d258724b0d4961892c2d25852d3094060a80c110081a0202,
  0xfbd82d59935b26402429045afc885f90ebf2199fc2b328471306c1e0690c010177202e6405c989301015f202b64056480ac1014f2009c819250324206472008c4011480221004320080400ec801d1003920070400dc801b1003520068400cc80191003120060604bc3d122021f4043a6e071010d9b81a40a3280861010ba0216404288104d258924b11496214803d258724b0d4961892c2d25852d3094060a80c110081a0202,
  0xfbd82d59935b26402429045afc885f90ebf2199fc2b328471306c1e0690c010177202e6405c989301015f202b64056480ac1014f2009c819250324206472008c4011480221004320080400ec801d1003920070400dc801b1003520068400cc80191003120060608bc3d122021f4043a6e071010d9b81a40a3280861010ba0216404288104d258924b11496214803d258724b0d4961892c2d25852d3094060a80c110081a0202,
  0xfbd82d59935b26402429045afc885f90ebf2199fc2b328471306c1e0690c010177202e6405c989301015f202b64056480ac1014f2009c819250324206472008c4011480221004320080400ec801d1003920070400dc801b1003520068400cc8019100312006060cbc3d122021f4043a6e071010d9b81a40a3280861010ba0216404288104d258924b11496214803d258724b0d4961892c2d25852d3094060a80c110081a0202,
  0xfbd82d59935b26402429045afc885f90ebf2199fc2b328471306c1e0690c010177202e6405c989301015f202b64056480ac1014f2009c819250324206472008c4011480221004320080400ec801d1003920070400dc801b1003520068400cc80191003120060610bc3d122021f4043a6e071010d9b81a40a3280861010ba0216404288104d258924b11496214803d258724b0d4961892c2d25852d3094060a80c110081a0202,
  0xfbd82d59935b26402429045afc885f90ebf2199fc2b328471306c1e0690c010177202e6405c989301015f202b64056480ac1014f2009c819250324206472008c4011480221004320080400ec801d1003920070400dc801b1003520068400cc80191003120060420bc3c922021f4043a6e071010d9b81a40a3280861010ba0216404288104d258924b11496214803d258724b0d4961892c2d25852d3094060a80c110081a0202,
  0xfbd82d59935b26402429045afc885f90ebf2199fc2b328471306c1e0690c010177202e6405c989301015f202b64056480ac1014f2009c819250324206472008c4011480221004320080400ec801d1003920070400dc801b1003520068400cc8019100312006062cbc3c922021f4043a6e071010d9b81a40a3280861010ba0216404288104d258924b11496214803d258724b0d4961892c2d25852d3094060a80c110081a0202,
  0xfbd82d59935b26402429045afc885f90ebf2199fc2b328471306c1e0690c010177202e6405c989301015f202b64056480ac1014f2009c819250324206472008c4011480221004320080400ec801d1003920070400dc801b1003520068400cc80191003120060458bc3c922021f4043a6e071010d9b81a40a3280861010ba0216404288104d258924b11496214803d258724b0d4961892c2d25852d3094060a80c110081a0202,
  0xfbd82d59935b26402429045afc885f90ebf2199fc2b328471306c1e0690c010177202e6405c989301015f202b64056480ac1014f2009c819250324206472008c4011480221004320080400ec801d1003920070400dc801b1003520068400cc801910031200604e4bc3c922021f4043a6e071010d9b81a40a3280861010ba0216404288104d258924b11496214803d258724b0d4961892c2d25852d3094060a80c110081a0202,
  0xfbd82d59935b26402429045afc885f90ebf2199fc2b328471306c1e0690c010177202e6405c989301015f202b64056480ac1014f2009c819250324206472008c4011480221004320080400ec801d1003920070400dc801b1003520068400cc80191003120060548bc3c922021f4043a6e071010d9b81a40a3280861010ba0216404288104d258924b11496214803d258724b0d4961892c2d25852d3094060a80c110081a0202,
  0xfbd82d59935b26402429045afc885f90ebf2199fc2b328471306c1e0690c010177202e6405c989301015f202b64056480ac1014f2009c819250324206472008c4011480221004320080400ec801d1003920070400dc801b1003520068400cc8019100312006054cbc3c922021f4043a6e071010d9b81a40a3280861010ba0216404288104d258924b11496214803d258724b0d4961892c2d25852d3094060a80c110081a0202,
  0xfbd82d59935b26402429045afc885f90ebf2199fc2b328471306c1e0690c010177202e6405c989301015f202b64056480ac1014f2009c819250324206472008c4011480221004320080400ec801d1003920070400dc801b1003520068400cc80191003120060590bc3c922021f4043a6e071010d9b81a40a3280861010ba0216404288104d258924b11496214803d258724b0d4961892c2d25852d3094060a80c110081a0202,
  0xfbd82d59935b26402429045afc885f90ebf2199fc2b328471306c1e0690c010177202e6405c989301015f202b64056480ac1014f2009c819250324206472008c4011480221004320080400ec801d1003920070400dc801b1003520068400cc80191003120060594bc3c922021f4043a6e071010d9b81a40a3280861010ba0216404288104d258924b11496214803d258724b0d4961892c2d25852d3094060a80c110081a0202,
  0xfbd82d59935b26402429045afc885f90ebf2199fc2b328471306c1e0690c010177202e6405c989301015f202b64056480ac1014f2009c819250324206472008c4011480221004320080400ec801d1003920070400dc801b1003520068400cc80191003120060598bc3c922021f4043a6e071010d9b81a40a3280861010ba0216404288104d258924b11496214803d258724b0d4961892c2d25852d3094060a80c110081a0202,
  0xfbd82d59935b26402429045afc885f90ebf2199fc2b328471306c1e0690c010177202e6405c989301015f202b64056480ac1014f2009c819250324206472008c4011480221004320080400ec801d1003920070400dc801b1003520068400cc8019100312006059cbc3c922021f4043a6e071010d9b81a40a3280861010ba0216404288104d258924b11496214803d258724b0d4961892c2d25852d3094060a80c110081a0202,
  0xfbd82d59935b26402429045afc885f90ebf2199fc2b328471306c1e0690c010177202e6405c989301015f202b64056480ac1014f2009c819250324206472008c4011480221004320080400ec801d1003920070400dc801b1003520068400cc801910031200605a0bc3c922021f4043a6e071010d9b81a40a3280861010ba0216404288104d258924b11496214803d258724b0d4961892c2d25852d3094060a80c110081a0202,
  0xfbd82d59935b26402429045afc885f90ebf2199fc2b328471306c1e0690c010177202e6405c989301015f202b64056480ac1014f2009c819250324206472008c4011480221004320080400ec801d1003920070400dc801b1003520068400cc801910031200605c0bc3c922021f4043a6e071010d9b81a40a3280861010ba0216404288104d258924b11496214803d258724b0d4961892c2d25852d3094060a80c110081a0202,
  0xfbd82d59935b26402429045afc885f90ebf2199fc2b328471306c1e0690c010177202e6405c989301015f202b64056480ac1014f2009c819250324206472008c4011480221004320080400ec801d1003920070400dc801b1003520068400cc801910031200605c4bc3c922021f4043a6e071010d9b81a40a3280861010ba0216404288104d258924b11496214803d258724b0d4961892c2d25852d3094060a80c110081a0202,
  0xfbd82d59935b26402429045afc885f90ebf2199fc2b328471306c1e0690c010177202e6405c989301015f202b64056480ac1014f2009c819250324206472008c4011480221004320080400ec801d1003920070400dc801b1003520068400cc801910031200605c8bc3c922021f4043a6e071010d9b81a40a3280861010ba0216404288104d258924b11496214803d258724b0d4961892c2d25852d3094060a80c110081a0202,
  0xfbd82d59935b26402429045afc885f90ebf2199fc2b328471306c1e0690c010177202e6405c989301015f202b64056480ac1014f2009c819250324206472008c4011480221004320080400ec801d1003920070400dc801b1003520068400cc801910031200605ccbc3c922021f4043a6e071010d9b81a40a3280861010ba0216404288104d258924b11496214803d258724b0d4961892c2d25852d3094060a80c110081a0202,
  0xfbd82d59935b26402429045afc885f90ebf2199fc2b328471306c1e0690c010177202e6405c989301015f202b64056480ac1014f2009c819250324206472008c4011480221004320080400ec801d1003920070400dc801b1003520068400cc801910031200605d0bc3c922021f4043a6e071010d9b81a40a3280861010ba0216404288104d258924b11496214803d258724b0d4961892c2d25852d3094060a80c110081a0202,
  0xfbd82d59935b26402429045afc885f90ebf2199fc2b328471306c1e0690c010177202e6405c989301015f202b64056480ac1014f2009c819250324206472008c4011480221004320080400ec801d1003920070400dc801b1003520068400cc801910031200605d4bc3c922021f4043a6e071010d9b81a40a3280861010ba0216404288104d258924b11496214803d258724b0d4961892c2d25852d3094060a80c110081a0202,
  0xfbd82d59935b26402429045afc885f90ebf2199fc2b328471306c1e0690c010177202e6405c989301015f202b64056480ac1014f2009c819250324206472008c4011480221004320080400ec801d1003920070400dc801b1003520068400cc801910031200605d8bc3c922021f4043a6e071010d9b81a40a3280861010ba0216404288104d258924b11496214803d258724b0d4961892c2d25852d3094060a80c110081a0202,
  0xfbd82d59935b26402429045afc885f90ebf2199fc2b328471306c1e0690c010177202e6405c989301015f202b64056480ac1014f2009c819250324206472008c4011480221004320080400ec801d1003920070400dc801b1003520068400cc801910031200605dcbc3c922021f4043a6e071010d9b81a40a3280861010ba0216404288104d258924b11496214803d258724b0d4961892c2d25852d3094060a80c110081a0202,
  0xfbd82d59935b26402429045afc885f90ebf2199fc2b328471306c1e0690c010177202e6405c989301015f202b64056480ac1014f2009c819250324206472008c4011480221004320080400ec801d1003920070400dc801b1003520068400cc801910031200605e8bc3c922021f4043a6e071010d9b81a40a3280861010ba0216404288104d258924b11496214803d258724b0d4961892c2d25852d3094060a80c110081a0202,
  0xfbd82d59935b26402429045afc885f90ebf2199fc2b328471306c1e0690c010177202e6405c989301015f202b64056480ac1014f2009c819250324206472008c4011480221004320080400ec801d1003920070400dc801b1003520068400cc801910031200605ecbc3c922021f4043a6e071010d9b81a40a3280861010ba0216404288104d258924b11496214803d258724b0d4961892c2d25852d3094060a80c110081a0202,
  0xfbd82d59935b26402429045afc885f90ebf2199fc2b328471306c1e0690c010177202e6405c989301015f202b64056480ac1014f2009c819250324206472008c4011480221004320080400ec801d1003920070400dc801b1003520068400cc801910031200605f0bc3c922021f4043a6e071010d9b81a40a3280861010ba0216404288104d258924b11496214803d258724b0d4961892c2d25852d3094060a80c110081a0202,
  0xfbd82d59935b26402429045afc885f90ebf2199fc2b328471306c1e0690c010177202e6405c989301015f202b64056480ac1014f2009c819250324206472008c4011480221004320080400ec801d1003920070400dc801b1003520068400cc801910031200605f4bc3c922021f4043a6e071010d9b81a40a3280861010ba0216404288104d258924b11496214803d258724b0d4961892c2d25852d3094060a80c110081a0202,
  0xfbd82d59935b26402429045afc885f90ebf2199fc2b328471306c1e0690c010177202e6405c989301015f202b64056480ac1014f2009c819250324206472008c4011480221004320080400ec801d1003920070400dc801b1003520068400cc801910031200605f8bc3c922021f4043a6e071010d9b81a40a3280861010ba0216404288104d258924b11496214803d258724b0d4961892c2d25852d3094060a80c110081a0202,
  0xfbd82d59935b26402429045afc885f90ebf2199fc2b328471306c1e0690c010177202e6405c989301015f202b64056480ac1014f2009c819250324206472008c4011480221004320080400ec801d1003920070400dc801b1003520068400cc801910031200605fcbc3c922021f4043a6e071010d9b81a40a3280861010ba0216404288104d258924b11496214803d258724b0d4961892c2d25852d3094060a80c110081a0202,
  0xfbd82d59935b26402429045afc885f90ebf2199fc2b328471306c1e0690c010177202e6405c989301015f202b64056480ac1014f2009c819250324206472008c4011480221004320080400ec801d1003920070400dc801b1003520068400cc80191003120060600bc3c922021f4043a6e071010d9b81a40a3280861010ba0216404288104d258924b11496214803d258724b0d4961892c2d25852d3094060a80c110081a0202,
  0xfbd82d59935b26402429045afc885f90ebf2199fc2b328471306c1e0690c010177202e6405c989301015f202b64056480ac1014f2009c819250324206472008c4011480221004320080400ec801d1003920070400dc801b1003520068400cc80191003120060604bc3c922021f4043a6e071010d9b81a40a3280861010ba0216404288104d258924b11496214803d258724b0d4961892c2d25852d3094060a80c110081a0202,
  0xfbd82d59935b26402429045afc885f90ebf2199fc2b328471306c1e0690c010177202e6405c989301015f202b64056480ac1014f2009c819250324206472008c4011480221004320080400ec801d1003920070400dc801b1003520068400cc80191003120060608bc3c922021f4043a6e071010d9b81a40a3280861010ba0216404288104d258924b11496214803d258724b0d4961892c2d25852d3094060a80c110081a0202,
  0xfbd82d59935b26402429045afc885f90ebf2199fc2b328471306c1e0690c010177202e6405c989301015f202b64056480ac1014f2009c819250324206472008c4011480221004320080400ec801d1003920070400dc801b1003520068400cc8019100312006060cbc3c922021f4043a6e071010d9b81a40a3280861010ba0216404288104d258924b11496214803d258724b0d4961892c2d25852d3094060a80c110081a0202,
  0xfbd82d59935b26402429045afc885f90ebf2199fc2b328471306c1e0690c010177202e6405c989301015f202b64056480ac1014f2009c819250324206472008c4011480221004320080400ec801d1003920070400dc801b1003520068400cc80191003120060610bc3c922021f4043a6e071010d9b81a40a3280861010ba0216404288104d258924b11496214803d258724b0d4961892c2d25852d3094060a80c110081a0202,
  0xfbd82d59935b26402429045afc885f90ebf2199fc2b328471306c1e0690c010177202e6405c989301015f202b64056480ac1014f2009c819250324206472008c4011480221004320080400ec801d1003920070400dc801b1003520068400cc80191003120060420bd52122021f4043a6e071010d9b81a40a3280861010ba0216404288104d258924b11496214803d258724b0d4961892c2d25852d3094060a80c110081a0202,
  0xfbd82d59935b26402429045afc885f90ebf2199fc2b328471306c1e0690c010177202e6405c989301015f202b64056480ac1014f2009c819250324206472008c4011480221004320080400ec801d1003920070400dc801b1003520068400cc80191003120061464bd52122021f4043a6e071010d9b81a40a3280861010ba0216404288104d258924b11496214803d258724b0d4961892c2d25852d3094060a80c110081a0202,
  0xfbd82d59935b26402429045afc885f90ebf2199fc2b328471306c1e0690c010177202e6405c989301015f202b64056480ac1014f2009c819250324206472008c4011480221004320080400ec801d1003920070400dc801b1003520068400cc80191003120060458bd52122021f4043a6e071010d9b81a40a3280861010ba0216404288104d258924b11496214803d258724b0d4961892c2d25852d3094060a80c110081a0202,
  0xfbd82d59935b26402429045afc885f90ebf2199fc2b328471306c1e0690c010177202e6405c989301015f202b64056480ac1014f2009c819250324206472008c4011480221004320080400ec801d1003920070400dc801b1003520068400cc801910031200604e4bd52122021f4043a6e071010d9b81a40a3280861010ba0216404288104d258924b11496214803d258724b0d4961892c2d25852d3094060a80c110081a0202,
  0xfbd82d59935b26402429045afc885f90ebf2199fc2b328471306c1e0690c010177202e6405c989301015f202b64056480ac1014f2009c819250324206472008c4011480221004320080400ec801d1003920070400dc801b1003520068400cc80191003120060548bd52122021f4043a6e071010d9b81a40a3280861010ba0216404288104d258924b11496214803d258724b0d4961892c2d25852d3094060a80c110081a0202,
  0xfbd82d59935b26402429045afc885f90ebf2199fc2b328471306c1e0690c010177202e6405c989301015f202b64056480ac1014f2009c819250324206472008c4011480221004320080400ec801d1003920070400dc801b1003520068400cc8019100312006054cbd52122021f4043a6e071010d9b81a40a3280861010ba0216404288104d258924b11496214803d258724b0d4961892c2d25852d3094060a80c110081a0202,
  0xfbd82d59935b26402429045afc885f90ebf2199fc2b328471306c1e0690c010177202e6405c989301015f202b64056480ac1014f2009c819250324206472008c4011480221004320080400ec801d1003920070400dc801b1003520068400cc80191003120060590bd52122021f4043a6e071010d9b81a40a3280861010ba0216404288104d258924b11496214803d258724b0d4961892c2d25852d3094060a80c110081a0202,
  0xfbd82d59935b26402429045afc885f90ebf2199fc2b328471306c1e0690c010177202e6405c989301015f202b64056480ac1014f2009c819250324206472008c4011480221004320080400ec801d1003920070400dc801b1003520068400cc80191003120060594bd52122021f4043a6e071010d9b81a40a3280861010ba0216404288104d258924b11496214803d258724b0d4961892c2d25852d3094060a80c110081a0202,
  0xfbd82d59935b26402429045afc885f90ebf2199fc2b328471306c1e0690c010177202e6405c989301015f202b64056480ac1014f2009c819250324206472008c4011480221004320080400ec801d1003920070400dc801b1003520068400cc80191003120060598bd52122021f4043a6e071010d9b81a40a3280861010ba0216404288104d258924b11496214803d258724b0d4961892c2d25852d3094060a80c110081a0202,
  0xfbd82d59935b26402429045afc885f90ebf2199fc2b328471306c1e0690c010177202e6405c989301015f202b64056480ac1014f2009c819250324206472008c4011480221004320080400ec801d1003920070400dc801b1003520068400cc8019100312006059cbd52122021f4043a6e071010d9b81a40a3280861010ba0216404288104d258924b11496214803d258724b0d4961892c2d25852d3094060a80c110081a0202,
  0xfbd82d59935b26402429045afc885f90ebf2199fc2b328471306c1e0690c010177202e6405c989301015f202b64056480ac1014f2009c819250324206472008c4011480221004320080400ec801d1003920070400dc801b1003520068400cc801910031200605a0bd52122021f4043a6e071010d9b81a40a3280861010ba0216404288104d258924b11496214803d258724b0d4961892c2d25852d3094060a80c110081a0202,
  0xfbd82d59935b26402429045afc885f90ebf2199fc2b328471306c1e0690c010177202e6405c989301015f202b64056480ac1014f2009c819250324206472008c4011480221004320080400ec801d1003920070400dc801b1003520068400cc801910031200605c0bd52122021f4043a6e071010d9b81a40a3280861010ba0216404288104d258924b11496214803d258724b0d4961892c2d25852d3094060a80c110081a0202,
  0xfbd82d59935b26402429045afc885f90ebf2199fc2b328471306c1e0690c010177202e6405c989301015f202b64056480ac1014f2009c819250324206472008c4011480221004320080400ec801d1003920070400dc801b1003520068400cc801910031200605c4bd52122021f4043a6e071010d9b81a40a3280861010ba0216404288104d258924b11496214803d258724b0d4961892c2d25852d3094060a80c110081a0202,
  0xfbd82d59935b26402429045afc885f90ebf2199fc2b328471306c1e0690c010177202e6405c989301015f202b64056480ac1014f2009c819250324206472008c4011480221004320080400ec801d1003920070400dc801b1003520068400cc801910031200605c8bd52122021f4043a6e071010d9b81a40a3280861010ba0216404288104d258924b11496214803d258724b0d4961892c2d25852d3094060a80c110081a0202,
  0xfbd82d59935b26402429045afc885f90ebf2199fc2b328471306c1e0690c010177202e6405c989301015f202b64056480ac1014f2009c819250324206472008c4011480221004320080400ec801d1003920070400dc801b1003520068400cc801910031200605ccbd52122021f4043a6e071010d9b81a40a3280861010ba0216404288104d258924b11496214803d258724b0d4961892c2d25852d3094060a80c110081a0202,
  0xfbd82d59935b26402429045afc885f90ebf2199fc2b328471306c1e0690c010177202e6405c989301015f202b64056480ac1014f2009c819250324206472008c4011480221004320080400ec801d1003920070400dc801b1003520068400cc801910031200605d0bd52122021f4043a6e071010d9b81a40a3280861010ba0216404288104d258924b11496214803d258724b0d4961892c2d25852d3094060a80c110081a0202,
  0xfbd82d59935b26402429045afc885f90ebf2199fc2b328471306c1e0690c010177202e6405c989301015f202b64056480ac1014f2009c819250324206472008c4011480221004320080400ec801d1003920070400dc801b1003520068400cc801910031200605d4bd52122021f4043a6e071010d9b81a40a3280861010ba0216404288104d258924b11496214803d258724b0d4961892c2d25852d3094060a80c110081a0202,
  0xfbd82d59935b26402429045afc885f90ebf2199fc2b328471306c1e0690c010177202e6405c989301015f202b64056480ac1014f2009c819250324206472008c4011480221004320080400ec801d1003920070400dc801b1003520068400cc801910031200605d8bd52122021f4043a6e071010d9b81a40a3280861010ba0216404288104d258924b11496214803d258724b0d4961892c2d25852d3094060a80c110081a0202,
  0xfbd82d59935b26402429045afc885f90ebf2199fc2b328471306c1e0690c010177202e6405c989301015f202b64056480ac1014f2009c819250324206472008c4011480221004320080400ec801d1003920070400dc801b1003520068400cc801910031200605dcbd52122021f4043a6e071010d9b81a40a3280861010ba0216404288104d258924b11496214803d258724b0d4961892c2d25852d3094060a80c110081a0202,
  0xfbd82d59935b26402429045afc885f90ebf2199fc2b328471306c1e0690c010177202e6405c989301015f202b64056480ac1014f2009c819250324206472008c4011480221004320080400ec801d1003920070400dc801b1003520068400cc801910031200605e8bd52122021f4043a6e071010d9b81a40a3280861010ba0216404288104d258924b11496214803d258724b0d4961892c2d25852d3094060a80c110081a0202,
  0xfbd82d59935b26402429045afc885f90ebf2199fc2b328471306c1e0690c010177202e6405c989301015f202b64056480ac1014f2009c819250324206472008c4011480221004320080400ec801d1003920070400dc801b1003520068400cc801910031200605ecbd52122021f4043a6e071010d9b81a40a3280861010ba0216404288104d258924b11496214803d258724b0d4961892c2d25852d3094060a80c110081a0202,
  0xfbd82d59935b26402429045afc885f90ebf2199fc2b328471306c1e0690c010177202e6405c989301015f202b64056480ac1014f2009c819250324206472008c4011480221004320080400ec801d1003920070400dc801b1003520068400cc801910031200605f0bd52122021f4043a6e071010d9b81a40a3280861010ba0216404288104d258924b11496214803d258724b0d4961892c2d25852d3094060a80c110081a0202,
  0xfbd82d59935b26402429045afc885f90ebf2199fc2b328471306c1e0690c010177202e6405c989301015f202b64056480ac1014f2009c819250324206472008c4011480221004320080400ec801d1003920070400dc801b1003520068400cc801910031200605f4bd52122021f4043a6e071010d9b81a40a3280861010ba0216404288104d258924b11496214803d258724b0d4961892c2d25852d3094060a80c110081a0202,
  0xfbd82d59935b26402429045afc885f90ebf2199fc2b328471306c1e0690c010177202e6405c989301015f202b64056480ac1014f2009c819250324206472008c4011480221004320080400ec801d1003920070400dc801b1003520068400cc801910031200605f8bd52122021f4043a6e071010d9b81a40a3280861010ba0216404288104d258924b11496214803d258724b0d4961892c2d25852d3094060a80c110081a0202,
  0xfbd82d59935b26402429045afc885f90ebf2199fc2b328471306c1e0690c010177202e6405c989301015f202b64056480ac1014f2009c819250324206472008c4011480221004320080400ec801d1003920070400dc801b1003520068400cc801910031200605fcbd52122021f4043a6e071010d9b81a40a3280861010ba0216404288104d258924b11496214803d258724b0d4961892c2d25852d3094060a80c110081a0202,
  0xfbd82d59935b26402429045afc885f90ebf2199fc2b328471306c1e0690c010177202e6405c989301015f202b64056480ac1014f2009c819250324206472008c4011480221004320080400ec801d1003920070400dc801b1003520068400cc80191003120060600bd52122021f4043a6e071010d9b81a40a3280861010ba0216404288104d258924b11496214803d258724b0d4961892c2d25852d3094060a80c110081a0202,
  0xfbd82d59935b26402429045afc885f90ebf2199fc2b328471306c1e0690c010177202e6405c989301015f202b64056480ac1014f2009c819250324206472008c4011480221004320080400ec801d1003920070400dc801b1003520068400cc80191003120060604bd52122021f4043a6e071010d9b81a40a3280861010ba0216404288104d258924b11496214803d258724b0d4961892c2d25852d3094060a80c110081a0202,
  0xfbd82d59935b26402429045afc885f90ebf2199fc2b328471306c1e0690c010177202e6405c989301015f202b64056480ac1014f2009c819250324206472008c4011480221004320080400ec801d1003920070400dc801b1003520068400cc80191003120060608bd52122021f4043a6e071010d9b81a40a3280861010ba0216404288104d258924b11496214803d258724b0d4961892c2d25852d3094060a80c110081a0202,
  0xfbd82d59935b26402429045afc885f90ebf2199fc2b328471306c1e0690c010177202e6405c989301015f202b64056480ac1014f2009c819250324206472008c4011480221004320080400ec801d1003920070400dc801b1003520068400cc8019100312006060cbd52122021f4043a6e071010d9b81a40a3280861010ba0216404288104d258924b11496214803d258724b0d4961892c2d25852d3094060a80c110081a0202,
  0xfbd82d59935b26402429045afc885f90ebf2199fc2b328471306c1e0690c010177202e6405c989301015f202b64056480ac1014f2009c819250324206472008c4011480221004320080400ec801d1003920070400dc801b1003520068400cc80191003120060610bd52122021f4043a6e071010d9b81a40a3280861010ba0216404288104d258924b11496214803d258724b0d4961892c2d25852d3094060a80c110081a0202,
  0x621326b64e9045afc885f90ebf2199fc2b328471306dfe0690c03104962090c411d25922021f4043a6e071010d9b81a40a3280861010ba0216404288104d258924b11496214803d258724b0d4961892c2d25852d8094060a80c110081a0202,
  0x274b061f326ee4e18474a68d861194822d7e442fc875f90ccfe1599423898357102fde01a0302cb4959690b2d1d25922021f4043a6e071010d9b81a40a3280861010ba0216404288104d258924b11496214803d258724b0d4961892c2d25852d6094060a80c110081a0202,
  0x274b061f326ee4e18474a68d861194822d7e442fc875f90ccfe159942389835710348601a0302cb4959690b2d1d25922021f4043a6e071010d9b81a40a3280861010ba0216404288104d258924b11496214803d258724b0d4961892c2d25852d6094060a80c110081a0202,
  0x274b061f326ee4e18474a68d861194822d7e442fc875f90ccfe15994238983571030aa01a0302cb4959690b2d1d25922021f4043a6e071010d9b81a40a3280861010ba0216404288104d258924b11496214803d258724b0d4961892c2d25852d6094060a80c110081a0202,
  0x9d2c1884c9ad93133214822d7e442fc875f90ccfe159942389836130348601a2b02cb4959690b2d1d25922021f4043a6e071010d9b81a40a3280861010ba0216404288104d258924b11496214803d258724b0d4961892c2d2585292094060a80c110081a0202,
  0x9d2c1884c9ad93173214822d7e442fc875f90ccfe159942389836170348601a6302cb4959690b2d1d25922021f4043a6e071010d9b81a40a3280861010ba0216404288104d258924b11496214803d258724b0d4961892c2d25852b6094060a80c110081a0202,
  0x9d2c1884c9ad9317b214822d7e442fc875f90ccfe159942389836190348601a6b02cb4959690b2d1d25922021f4043a6e071010d9b81a40a3280861010ba0216404288104d258924b11496214803d258724b0d4961892c2d25852b7094060a80c110081a0202,
  0xc4264e3c9d208b5f910bf21d7e4333f8566508e260dbfc0d2180a769b4ed322725b52496a490d491d25922021f4043a6e071010d9b81a40a3280861010ba0216404288104d258924b11496214803d258724b0d4961892c2d258527c094060a80c110081a0202,
  0x1884c9ad93a4116bf2217e43afc8667f0acca11c4c1b7f81a4301179362f26352496a490d491d25922021f4043a6e071010d9b81a40a3280861010ba0216404288104d258924b11496214803d258724b0d4961892c2d258527c094060a80c110081a0202,
  0xc4264d6c9d208b5f910bf21d7e4333f8566508e260dbfc0d218062092c41218823c683a8d0631a0c125922021f4043a6e071010d9b81a40a3280861010ba0216404288104d258924b11496214803d258724b0d4961892c2d25852d3094060a80c110081a0202,
  0xc4264e3c9d208b5f910bf21d7e4333f8566508e260dbfc0d2180aca9b595324425b52496a490d491d25922021f4043a6e071010d9b81a40a3280861010ba0216404288104d258924b11496214803d258724b0d4961892c2d258527c094060a80c110081a0202,
  0xc4264e3c9d208b5f910bf21d7e4333f8566508e260dbfc0d2180ace9b59d3245a5b52496a490d491d25922021f4043a6e071010d9b81a40a3280861010ba0216404288104d258924b11496214803d258724b0d4961892c2d258527c094060a80c110081a0202,
  0x3109935b274822d7e442fc875f90ccfe159942389836ff03486022cbfb104962090c411d25922021f4043a6e071010d9b81a40a3280861010ba0216404288104d258924b11496214803d258724b0d4961892c2d2585296094060a80c110081a0202,
  0x1884c9bf93a4116bf2217e43afc866c70acca11c4c1b3781a4300c41258824310478c65b18cad25922021f4043a6e071010d9b81a40a3280861010ba0216404288104d258924b11496214803d258724b0d4961892c2d2585294094060a80c110081a0202,
  0x1884c9ad93a4116bf2217e43afc8667f0acca11c4c1b7f81a4301441368826352496a490d491d25922021f4043a6e071010d9b81a40a3280861010ba0216404288104d258924b11496214803d258724b0d4961892c2d258527c094060a80c110081a0202,
  0xc4264dcc9d5e8b5f910bf21d7e433638566508e260d9ac0d218062092c41218823c5b2b8b65505ca525922021f4043a74471010d9d11a40a3280861010ba0216404288104d258924b11496215783d258724b0d4961892c2d2585272094060a80c110081a0202,
  0x1884c9ad93a4116bf2217e43afc8667f0acca11c4c1b7f81a43014053680a6352496a490d491d25922021f4043a6e071010d9b81a40a3280861010ba0216404288104d258924b11496214803d258724b0d4961892c2d25852c5094060a80c110081a0202,
  0x3109935b274822d7e442fc875f90ccfe159942389836ff034860286bfb104962090c411d25922021f4043a6e071010d9b81a40a3280861010ba0216404288104d258924b11496214803d258724b0d4961892c2d25852c7094060a80c110081a0202,
  0x1884c9ad93a4116bf2217e43afc8667f0acca11c4c1b7f81a43014053680a6352496a490d491d25922021f4043a6e071010d9b81a40a3280861010ba0216404288104d258924b11496214803d258724b0d4961892c2d258527c094060a80c110081a0202,
  0x1884c9ad93a4116bf2217e43afc8667f0acca11c4c1b7f81a430156936ad26352496a490d491d25922021f4043a6e071010d9b81a40a3280861010ba0216404288104d258924b11496214803d258724b0d4961892c2d258527c094060a80c110081a0202,
  0xc4264dd49d208b5f910bf21d7e433638566508e260d9ac0d218062092c41218823c5b2b8b655224a525922021f4043a6e071010d9b81a40a3280861010ba0216404288104d258924b11496214803d258724b0d4961892c2d2585278094060a80c110081a0202,
  0x3109935b274822d7e442fc875f90ccfe159942389836ff03486018824b10486208e93cc125922021f4043a6e071010d9b81a40a3280861010ba0216404288104d258924b11496214803d258724b0d4961892c2d2585266094060a80c110081a0202,
  0x3109935b274822d7e442fc875f90ccfe159942389836ff03486022abfb104962090c411d25922021f4043a6e071010d9b81a40a3280861010ba0216404288104d258924b11496214803d258724b0d4961892c2d2585295094060a80c110081a0202,
  0x3109937d2757a2d7e442fc875f90ccfe159942389836ff03486018824b10486208e93cc125922021f4043a74471010d9d11a40a3280861010ba0216404288104d258924b11496215783d258724b0d4961892c2d2585282094060a80c110081a0202,
  0x621326b64e9045afc885f90ebf2199fc2b328471306dfe0690c03104962090c411d25922021f4043a6e071010d9b81a40a3280861010ba0216404288104d258924b11496214803d258724b0d4961892c2d25852d7094060a80c110081a0202,
  0x621326b64e9045afc885f90ebf2199fc2b328471306dfe0690c03104962090c411d25922021f4043a6e071010d9b81a40a3280861010ba0216404288104d258924b11496214803d258724b0d4961892c2d2585294094060a80c110081a0202,
  0x621326b64e9045afc885f90ebf2199fc2b328471306dfe0690c03104962090c411d25922021f4043a6e071010d9b81a40a3280861010ba0216404288104d258924b11496214803d258724b0d4961892c2d25852e2094060a80c110081a0202,
  0x3568c8e9f8d53c,
  0x26e8c8f1f89b3c,
  0x621326b64e9045afc885f90ebf2199fc2b328471306dfe0690c03104962090c411d25922021f4043a6e071010d9b81a40a3280861010ba0216404288104d258924b11496214803d258724b0d4961892c2d25852e4094060a80c110081a0202,
  0x621326b64e9045afc885f90ebf2199fc2b328471306dfe0690c03104962090c411d25922021f4043a6e071010d9b81a40a3280861010ba0216404288104d258924b11496214803d258724b0d4961892c2d25852e5094060a80c110081a0202,
  0x621326b64e9045afc885f90ebf2199fc2b328471306dfe0690c03104962090c411d25922021f4043a6e071010d9b81a40a3280861010ba0216404288104d258924b11496214803d258724b0d4961892c2d25852e7094060a80c110081a0202,
  0x3568c9c1f8d53c,
  0x621326b64e9045afc885f90ebf2199fc2b328471306dfe0690c03104962090c411d25922021f4043a6e071010d9b81a40a3280861010ba0216404288104d258924b11496214803d258724b0d4961892c2d2585297094060a80c110081a0202,
  0x621326b64e9045afc885f90ebf2199fc2b328471306dfe0690c03104962090c411d25922021f4043a6e071010d9b81a40a3280861010ba0216404288104d258924b11496214803d258724b0d4961892c2d25852e8094060a80c110081a0202,
  0x621326b64e9045afc885f90ebf2199fc2b328471306dfe0690c03104962090c411d25922021f4043a6e071010d9b81a40a3280861010ba0216404288104d258924b11496214803d258724b0d4961892c2d2585298094060a80c110081a0202,
  0x621326b64e9045afc885f90ebf2199fc2b328471306dfe0690c03104962090c411d25922021f4043a6e071010d9b81a40a3280861010ba0216404288104d258924b11496214803d258724b0d4961892c2d2585299094060a80c110081a0202,
  0x621326b64e9045afc885f90ebf2199fc2b328471306dfe0690c03104962090c411d25922021f4043a6e071010d9b81a40a3280861010ba0216404288104d258924b11496214803d258724b0d4961892c2d258529a094060a80c110081a0202,
  0x621326b64e9045afc885f90ebf2199fc2b328471306dfe0690c03104962090c411d25922021f4043a6e071010d9b81a40a3280861010ba0216404288104d258924b11496214803d258724b0d4961892c2d25852e9094060a80c110081a0202,
  0x621326b64e9045afc885f90ebf2199fc2b328471306dfe0690c03104962090c411d25922021f4043a6e071010d9b81a40a3280861010ba0216404288104d258924b11496214803d258724b0d4961892c2d258529b094060a80c110081a0202,
  0x621326b64e9045afc885f90ebf2199fc2b328471306dfe0690c03104962090c411d25922021f4043a6e071010d9b81a40a3280861010ba0216404288104d258924b11496214803d258724b0d4961892c2d258529d094060a80c110081a0202,
  0x621326b64e9045afc885f90ebf2199fc2b328471306dfe0690c03104962090c411d25922021f4043a6e071010d9b81a40a3280861010ba0216404288104d258924b11496214803d258724b0d4961892c2d258529e094060a80c110081a0202,
  0x621326b64e9045afc885f90ebf2199fc2b328471306dfe0690c03104962090c411d25922021f4043a6e071010d9b81a40a3280861010ba0216404288104d258924b11496214803d258724b0d4961892c2d258529f094060a80c110081a0202,
  0x621326b64e9045afc885f90ebf2199fc2b328471306dfe0690c03104962090c411d25922021f4043a6e071010d9b81a40a3280861010ba0216404288104d258924b11496214803d258724b0d4961892c2d25852a6094060a80c110081a0202,
  0x621326b64e9045afc885f90ebf2199fc2b328471306dfe0690c03104962090c411d25922021f4043a6e071010d9b81a40a3280861010ba0216404288104d258924b11496214803d258724b0d4961892c2d25852a7094060a80c110081a0202,
  0x621326b64e9045afc885f90ebf2199fc2b328471306dfe0690c03104962090c411d25922021f4043a6e071010d9b81a40a3280861010ba0216404288104d258924b11496214803d258724b0d4961892c2d25852a8094060a80c110081a0202,
  0x621326b64e9045afc885f90ebf2199fc2b328471306dfe0690c03104962090c411d25922021f4043a6e071010d9b81a40a3280861010ba0216404288104d258924b11496214803d258724b0d4961892c2d25852a9094060a80c110081a0202,
  0x621326b64e9045afc885f90ebf2199fc2b328471306dfe0690c03104962090c411d25922021f4043a6e071010d9b81a40a3280861010ba0216404288104d258924b11496214803d258724b0d4961892c2d25852aa094060a80c110081a0202,
  0x621326b64e9045afc885f90ebf2199fc2b328471306dfe0690c03104962090c411d25922021f4043a6e071010d9b81a40a3280861010ba0216404288104d258924b11496214803d258724b0d4961892c2d25852ab094060a80c110081a0202,
  0x621326b64e9045afc885f90ebf2199fc2b328471306dfe0690c03104962090c411d25922021f4043a6e071010d9b81a40a3280861010ba0216404288104d258924b11496214803d258724b0d4961892c2d25852ac094060a80c110081a0202,
  0x621326b64e9045afc885f90ebf2199fc2b328471306dfe0690c03104962090c411d25922021f4043a6e071010d9b81a40a3280861010ba0216404288104d258924b11496214803d258724b0d4961892c2d25852ad094060a80c110081a0202,
  0x621326b64e9045afc885f90ebf2199fc2b328471306dfe0690c03104962090c411d25922021f4043a6e071010d9b81a40a3280861010ba0216404288104d258924b11496214803d258724b0d4961892c2d25852ae094060a80c110081a0202,
  0x621326b64e9045afc885f90ebf2199fc2b328471306dfe0690c03104962090c411d25922021f4043a6e071010d9b81a40a3280861010ba0216404288104d258924b11496214803d258724b0d4961892c2d25852af094060a80c110081a0202,
  0x621326b64e9045afc885f90ebf2199fc2b328471306dfe0690c03104962090c411d25922021f4043a6e071010d9b81a40a3280861010ba0216404288104d258924b11496214803d258724b0d4961892c2d25852b0094060a80c110081a0202,
  0x621326b64e9045afc885f90ebf2199fc2b328471306dfe0690c03104962090c411d25922021f4043a6e071010d9b81a40a3280861010ba0216404288104d258924b11496214803d258724b0d4961892c2d25852b1094060a80c110081a0202,
  0x621326b64e9045afc885f90ebf2199fc2b328471306dfe0690c03104962090c411d25922021f4043a6e071010d9b81a40a3280861010ba0216404288104d258924b11496214803d258724b0d4961892c2d25852b2094060a80c110081a0202,
  0x621326b64e9045afc885f90ebf2199fc2b328471306dfe0690c03104962090c411d25922021f4043a6e071010d9b81a40a3280861010ba0216404288104d258924b11496214803d258724b0d4961892c2d25852b3094060a80c110081a0202,
  0x621326b64e9045afc885f90ebf2199fc2b328471306dfe0690c03104962090c411d25922021f4043a6e071010d9b81a40a3280861010ba0216404288104d258924b11496214803d258724b0d4961892c2d25852b4094060a80c110081a0202,
  0x621326b64e9045afc885f90ebf2199fc2b328471306dfe0690c03104962090c411d25922021f4043a6e071010d9b81a40a3280861010ba0216404288104d258924b11496214803d258724b0d4961892c2d25852b5094060a80c110081a0202,
  0x621326b64e9045afc885f90ebf2199fc2b328471306dfe0690c03104962090c411d25922021f4043a6e071010d9b81a40a3280861010ba0216404288104d258924b11496214803d258724b0d4961892c2d25852f4094060a80c110081a0202,
  0x621326b64e9045afc885f90ebf2199fc2b328471306dfe0690c03104962090c411d25922021f4043a6e071010d9b81a40a3280861010ba0216404288104d258924b11496214803d258724b0d4961892c2d25852f5094060a80c110081a0202,
  0x621326b64e9045afc885f90ebf2199fc2b328471306dfe0690c03104962090c411d25922021f4043a6e071010d9b81a40a3280861010ba0216404288104d258924b11496214803d258724b0d4961892c2d25852f6094060a80c110081a0202,
  0x621326b64e9045afc885f90ebf2199fc2b328471306dfe0690c03104962090c411d25922021f4043a6e071010d9b81a40a3280861010ba0216404288104d258924b11496214803d258724b0d4961892c2d25852f7094060a80c110081a0202,
  0x621326b64e9045afc885f90ebf2199fc2b328471306dfe0690c03104962090c411d25922021f4043a6e071010d9b81a40a3280861010ba0216404288104d258924b11496214803d258724b0d4961892c2d25852f8094060a80c110081a0202,
  0x621326b64e9045afc885f90ebf2199fc2b328471306dfe0690c03104962090c411d25922021f4043a6e071010d9b81a40a3280861010ba0216404288104d258924b11496214803d258724b0d4961892c2d25852f9094060a80c110081a0202,
  0x621326b64e9045afc885f90ebf2199fc2b328471306dfe0690c03104962090c411d25922021f4043a6e071010d9b81a40a3280861010ba0216404288104d258924b11496214803d258724b0d4961892c2d25852fa094060a80c110081a0202,
  0x621326b64e9045afc885f90ebf2199fc2b328471306dfe0690c03104962090c411d25922021f4043a6e071010d9b81a40a3280861010ba0216404288104d258924b11496214803d258724b0d4961892c2d25852fb094060a80c110081a0202,
  0x621326b64e9045afc885f90ebf2199fc2b328471306dfe0690c03104962090c411d25922021f4043a6e071010d9b81a40a3280861010ba0216404288104d258924b11496214803d258724b0d4961892c2d258524c094060a80c110081a0202,
  0x621326b64e9045afc885f90ebf2199fc2b328471306dfe0690c03104962090c411d25922021f4043a6e071010d9b81a40a3280861010ba0216404288104d258924b11496214803d258724b0d4961892c2d258524d094060a80c110081a0202,
  0x621326b64e9045afc885f90ebf2199fc2b328471306dfe0690c03104962090c411d25922021f4043a6e071010d9b81a40a3280861010ba0216404288104d258924b11496214803d258724b0d4961892c2d25852b9094060a80c110081a0202,
  0x621326b64e9045afc885f90ebf2199fc2b328471306dfe0690c03104962090c411d25922021f4043a6e071010d9b81a40a3280861010ba0216404288104d258924b11496214803d258724b0d4961892c2d25852d9094060a80c110081a0202,
  0x621326b64e9045afc885f90ebf2199fc2b328471306dfe0690c03104962090c411d25922021f4043a6e071010d9b81a40a3280861010ba0216404288104d258924b11496214803d258724b0d4961892c2d25852dc094060a80c110081a0202,
  0x621326b64e9045afc885f90ebf2199fc2b328471306dfe0690c03104962090c411d25922021f4043a6e071010d9b81a40a3280861010ba0216404288104d258924b11496214803d258724b0d4961892c2d25852d6094060a80c110081a0202,
  0x621326b64e9045afc885f90ebf2199fc2b328471306dfe0690c03104962090c411d25922021f4043a6e071010d9b81a40a3280861010ba0216404288104d258924b11496214803d258724b0d4961892c2d2585265094060a80c110081a0202,
  0x621326b64e9045afc885f90ebf2199fc2b328471306dfe0690c03104962090c411d25922021f4043a6e071010d9b81a40a3280861010ba0216404288104d258924b11496214803d258724b0d4961892c2d2585267094060a80c110081a0202,
  0x621326b64e9045afc885f90ebf2199fc2b328471306dfe0690c03104962090c411d25922021f4043a6e071010d9b81a40a3280861010ba0216404288104d258924b11496214803d258724b0d4961892c2d2585268094060a80c110081a0202,
  0x621326b64e9045afc885f90ebf2199fc2b328471306dfe0690c03104962090c411d25922021f4043a6e071010d9b81a40a3280861010ba0216404288104d258924b11496214803d258724b0d4961892c2d2585269094060a80c110081a0202,
  0x621326b64e9045afc885f90ebf2199fc2b328471306dfe0690c03104962090c411d25922021f4043a6e071010d9b81a40a3280861010ba0216404288104d258924b11496214803d258724b0d4961892c2d258526a094060a80c110081a0202,
  0x621326b64e9045afc885f90ebf2199fc2b328471306dfe0690c03104962090c411d25922021f4043a6e071010d9b81a40a3280861010ba0216404288104d258924b11496214803d258724b0d4961892c2d258526b094060a80c110081a0202,
  0x621326b64e9045afc885f90ebf2199fc2b328471306dfe0690c03104962090c411d25922021f4043a6e071010d9b81a40a3280861010ba0216404288104d258924b11496214803d258724b0d4961892c2d258526c094060a80c110081a0202,
  0x621326b64e9045afc885f90ebf2199fc2b328471306dfe0690c03104962090c411d25922021f4043a6e071010d9b81a40a3280861010ba0216404288104d258924b11496214803d258724b0d4961892c2d2585250094060a80c110081a0202,
  0x621326b64e9045afc885f90ebf2199fc2b328471306dfe0690c03104962090c411d25922021f4043a6e071010d9b81a40a3280861010ba0216404288104d258924b11496214803d258724b0d4961892c2d258526d094060a80c110081a0202,
  0x621326b64e9045afc885f90ebf2199fc2b328471306dfe0690c03104962090c411d25922021f4043a6e071010d9b81a40a3280861010ba0216404288104d258924b11496214803d258724b0d4961892c2d258526e094060a80c110081a0202,
  0x621326b64e9045afc885f90ebf2199fc2b328471306dfe0690c03104962090c411d25922021f4043a6e071010d9b81a40a3280861010ba0216404288104d258924b11496214803d258724b0d4961892c2d258526f094060a80c110081a0202,
  0x621326b64e9045afc885f90ebf2199fc2b328471306dfe0690c03104962090c411d25922021f4043a6e071010d9b81a40a3280861010ba0216404288104d258924b11496214803d258724b0d4961892c2d25852e0094060a80c110081a0202,
  0x621326b64e9045afc885f90ebf2199fc2b328471306dfe0690c03104962090c411d25922021f4043a6e071010d9b81a40a3280861010ba0216404288104d258924b11496214803d258724b0d4961892c2d25852e1094060a80c110081a0202,
  0x621326b64e9045afc885f90ebf2199fc2b328471306dfe0690c03104962090c411d25922021f4043a6e071010d9b81a40a3280861010ba0216404288444d258924b11496214803d2a0724b0d4961892c2d2585253094060a80c110081a0202,
  0x621326b64e9045afc885f90ebf2199fc2b328471306dfe0690c03104962090c411d25922021f4043a6e071010d9b81a40a3280861010ba0216404288104d258924b11496214803d258724b0d4961892c2d25852e3094060a80c110081a0202,
  0x6ad18d53c,
  0x621326b64e9045afc885f90ebf2199fc2b328471306dfe0690c03104962090c411d25922021f4043a6e071010d9b81a40a3280861010ba0216404288104d258924b11496214803d258724b0d4961892c2d25852c2094060a80c110081a0202,
  0x621326b64e9045afc885f90ebf2199fc2b328471306dfe0690c03104962090c411d25922021f4043a6e071010d9b81a40a3280861010ba0216404288104d258924b11496214803d258724b0d4961892c2d258527f094060a80c110081a0202,
  0x621326b64e9045afc885f90ebf2199fc2b328471306dfe0690c03104962090c411d25922021f4043a6e071010d9b81a40a3280861010ba0216404288104d258924b11496214803d258724b0d4961892c2d2585270094060a80c110081a0202,
  0x621326b64e9045afc885f90ebf2199fc2b328471306dfe0690c03104962090c411d25922021f4043a6e071010d9b81a40a3280861010ba0216404288104d258924b11496214803d258724b0d4961892c2d25852c4094060a80c110081a0202,
  0x621326b64e9045afc885f90ebf2199fc2b328471306dfe0690c03104962090c411d25922021f4043a6e071010d9b81a40a3280861010ba0216404288104d258924b11496214803d258724b0d4961892c2d25852ea094060a80c110081a0202,
  0x621326fa4eaf45afc885f90ebf2199fc2b328471306dfe0690c03104962090c411d25922021f4043a74471010d9d11a40a3280861010ba0216404288104d258924b11496215783d258724b0d4961892c2d25852c8094060a80c110081a0202,
  0x621326b64e9045afc885f90ebf2199fc2b328471306dfe0690c03104962090c411d25922021f4043a6e071010d9b81a40a3280861010ba0216404288104d258924b11496214803d258724b0d4961892c2d25852c9094060a80c110081a0202,
  0x621326b64e9045afc885f90ebf2199fc2b328471306dfe0690c03104962090c411d25922021f4043a6e071010d9b81a40a3280861010ba0216404288104d258924b11496214803d258724b0d4961892c2d25852ca094060a80c110081a0202,
  0x621326b64e9045afc885f90ebf2199fc2b328471306dfe0690c03104962090c411d25922021f4043a6e071010d9b81a40a3280861010ba0216404288104d258924b11496214803d258724b0d4961892c2d25852eb094060a80c110081a0202,
  0x621326fa4eaf45afc885f90ebf2199fc2b328471306dfe0690c03104962090c411d25922021f4043a74471010d9d11a40a3280861010ba0216404288104d258924b11496215783d258724b0d4961892c2d2585281094060a80c110081a0202,
  0x621326fa4eaf45afc885f90ebf2199fc2b328471306dfe0690c03104962090c411d25922021f4043a74471010d9d11a40a3280861010ba0216404288104d258924b11496215783d258724b0d4961892c2d2585283094060a80c110081a0202,
  0x621326fa4eaf45afc885f90ebf2199fc2b328471306dfe0690c03104962090c411d25922021f4043a74471010d9d11a40a3280861010ba0216404288104d258924b11496215783d258724b0d4961892c2d2585284094060a80c110081a0202,
  0x621326fa4eaf45afc885f90ebf2199fc2b328471306dfe0690c03104962090c411d25922021f4043a74471010d9d11a40a3280861010ba0216404288104d258924b11496215783d258724b0d4961892c2d2585285094060a80c110081a0202,
  0x621326fa4eaf45afc885f90ebf2199fc2b328471306dfe0690c03104962090c411d25922021f4043a74471010d9d11a40a3280861010ba0216404288104d258924b11496215783d258724b0d4961892c2d2585286094060a80c110081a0202,
  0x621326fa4eaf45afc885f90ebf2199fc2b328471306dfe0690c03104962090c411d25922021f4043a74471010d9d11a40a3280861010ba0216404288104d258924b11496215783d258724b0d4961892c2d2585287094060a80c110081a0202,
  0x621326fa4eaf45afc885f90ebf2199fc2b328471306dfe0690c03104962090c411d25922021f4043a74471010d9d11a40a3280861010ba0216404288104d258924b11496215783d258724b0d4961892c2d2585288094060a80c110081a0202,
  0x621326fa4eaf45afc885f90ebf2199fc2b328471306dfe0690c03104962090c411d25922021f4043a74471010d9d11a40a3280861010ba0216404288104d258924b11496215783d258724b0d4961892c2d2585250094060a80c110081a0202,
  0x621326fa4eaf45afc885f90ebf2199fc2b328471306dfe0690c03104962090c411d25922021f4043a74471010d9d11a40a3280861010ba0216404288104d258924b11496215783d258724b0d4961892c2d2585289094060a80c110081a0202,
  0x621326fa4eaf45afc885f90ebf2199fc2b328471306dfe0690c03104962090c411d25922021f4043a74471010d9d11a40a3280861010ba0216404288104d258924b11496215783d258724b0d4961892c2d258528a094060a80c110081a0202,
  0x621326fa4eaf45afc885f90ebf2199fc2b328471306dfe0690c03104962090c411d25922021f4043a74471010d9d11a40a3280861010ba0216404288104d258924b11496215783d258724b0d4961892c2d258528b094060a80c110081a0202,
  0x621326fa4eaf45afc885f90ebf2199fc2b328471306dfe0690c03104962090c411d25922021f4043a74471010d9d11a40a3280861010ba0216404288444d258924b11496215783d2a0724b0d4961892c2d2585253094060a80c110081a0202,
  0x621326fa4eaf45afc885f90ebf2199fc2b328471306dfe0690c03104962090c411d25922021f4043a74471010d9d11a40a3280861010ba0216404288104d258924b11496215783d258724b0d4961892c2d258528c094060a80c110081a0202,
  0x621326fa4eaf45afc885f90ebf2199fc2b328471306dfe0690c03104962090c411d25922021f4043a74471010d9d11a40a3280861010ba0216404288104d258924b11496215783d258724b0d4961892c2d258528d094060a80c110081a0202,
  0x621326b64e9045afc885f90ebf2199fc2b328471306dfe0690c03104962090c411d25922021f4043a6e071010d9b81a40a3280861010ba0216404288104d258924b11496214803d258724b0d4961892c2d25852ec094060a80c110081a0202,
  0x621326fa4eaf45afc885f90ebf2199fc2b328471306dfe0690c03104962090c411d25922021f4043a74471010d9d11a40a3280861010ba0216404288104d258924b11496215783d258724b0d4961892c2d258524c094060a80c110081a0202,
  0x621326fa4eaf45afc885f90ebf2199fc2b328471306dfe0690c03104962090c411d25922021f4043a74471010d9d11a40a3280861010ba0216404288104d258924b11496215783d258724b0d4961892c2d258524d094060a80c110081a0202,
  0x621326b64e9045afc885f90ebf2199fc2b328471306dfe0690c03104962090c411d25922021f4043a6e071010d9b81a40a3280861010ba0216404288104d258924b11496214803d258724b0d4961892c2d25852ed094060a80c110081a0202,
  0x621326b64e9045afc885f90ebf2199fc2b328471306dfe0690c03104962090c411d25922021f4043a6e071010d9b81a40a3280861010ba0216404288104d258924b11496214803d258724b0d4961892c2d25852ee094060a80c110081a0202,
  0x621326b64e9045afc885f90ebf2199fc2b328471306dfe0690c03104962090c411d25922021f4043a6e071010d9b81a40a3280861010ba0216404288104d258924b11496214803d258724b0d4961892c2d25852ef094060a80c110081a0202,
  0x621326b64e9045afc885f90ebf2199fc2b328471306dfe0690c03104962090c411d25922021f4043a6e071010d9b81a40a3280861010ba0216404288104d258924b11496214803d258724b0d4961892c2d25852f0094060a80c110081a0202,
  0x621326b64e9045afc885f90ebf2199fc2b328471306dfe0690c03104962090c411d25922021f4043a6e071010d9b81a40a3280861010ba0216404288104d258924b11496214803d258724b0d4961892c2d25852f1094060a80c110081a0202,
  0x621326b64e9045afc885f90ebf2199fc2b328471306dfe0690c03104962090c411d25922021f4043a6e071010d9b81a40a3280861010ba0216404288104d258924b11496214803d258724b0d4961892c2d25852f2094060a80c110081a0202,
  0x621326b64e9045afc885f90ebf2199fc2b328471306dfe0690c03104962090c411d25922021f4043a6e071010d9b81a40a3280861010ba0216404288104d258924b11496214803d258724b0d4961892c2d25852f3094060a80c110081a0202,
  0x9d2c1884cbe1935f910bf21d7e4333f8566508e260d9140d2180688c0b2d2565a42cb479d6848087d010ea021c40436f8069028ca02184042e80859010a43c134060a80c110081a0202,
  0x9d2c1884cbe1935f910bf21d7e4333f8566508e260d9140d2180688c0b2d2565a42cb4787a848087d010ea021c40436f8069028ca02184042e80859010a43c134060a80c110081a0202,
  0xc2d054228,
  0xc4264f749d208b5f910bf21d7e4333f8566508e260dbfc0d218062092c41218823a021f4043a80871010da021a40a3280861010ba02164042886c4e9007a580e4060a80c110081a0202,
  0xc42652549d5e8b5f910bf21d7e4333f8566508e260dbfc0d218062092c41218823a021f4043a80871010da021a40a3280861010ba02164042886c4eaf07a580e4060a80c110081a0202,
  0xfbd8199af333246664617c4afc885f90ebf2198342acc8462f02665dcccb999972332e301db0ccb59996a62cc2afd80ccaf9995b3ee927dd20fba399930,
  0xfbd819baf3372466e4617c4afc885f90ebf2198342acc8462f0266ddccdb999b72336e301db0cdb599b6a62cc2afd80cdaf99b5b3ee927dd20fba399b30,
  0xfbd819caf339246724617c4afc885f90ebf2198342acc8462f02671dcce3999c72338e301db0ce3599c6a62cc2afd80ce2f99c5b3ee927dd20fba399c30,
  0x16d102091e,
  0x10d6616d102091e,
  0x1a1b53ef606864617c4afc885f90ebf2198342acc8463502685e8d0bb9a173342e4c398573301a15f342b67dd24fba41f747,
  0x1a3b53ef6068e4617c4afc885f90ebf2198342acc846350268de8d1bb9a373346e4c398573301a35f346b67dd24fba41f747,
  0x958b16d102091e,
  0x21949c3270,
  0xd5da1f7b05f910bf21d7e433068559908c9604d5bd1ab77356ea6adcd92301ab5f356b67dd24fba41f747,
  0xd65a1f7b05f910bf21d7e433068559908c9604d63d1ac77358ea6b1cd92301ac5f358b67dd24fba41f747,
  0x2091e,
  0x2191e,
  0x2351e,
  0x1b19d7b532f6925ed243da47,
  0xd84ebda997b492f6921ed239df23,
  0x12b162091e,
  0x21acc2091e,
  0x12b161c820,
  0x3613a74e69edccbdb497b690f6d1d0a119d315,
  0x3613a74e69edccbdb497b690f6d1d0b919d315,
  0x2562c,
  0x3613a74e69edccbdb497b690f6d1d10919d315,
  0x3613a74e69edccbdb497b690f6d1d12119d315,
  0x1c820,
  0x1ca20,
  0x9d2c18cccc308e94d1b0c2317e442fc875f90cc1a15664231881680c0b2d2565a42cb47,
  0xe9cd3c39978692f0d21e1a39d315,
  0x274b088b1d116317e442fc875f90cc1a15664232e81680c09d1253a2427447,
  0x25793,
  0x25993,
  0x274b098d1d31a317e442fc875f90cc1a15664232e81680c09d1253a2427447,
  0x274b05f910bf21d7e433068559908cda059eb0274494e8909d11dc19f5463d,
  0x20c4a,
  0x21268,
  0x21568,
  0x21d68,
  0x21e68,
  0x21f68,
  0x22268,
  0x22b68,
  0x22c68,
  0x22d68,
  0x22e68,
  0x23768,
  0x23868,
  0x3f1607e124fc241f847,
  0x4a816,
  0x22530,
  0x18f4ccbb933bd1077a1cef431c2853a10879a0cdbc09e18063c92c79218f23a522b,
  0x2499d76d32ed925db243b647,
  0x18f4ccbb933bd1077a1cef431c2853a10879a0cdbc09e28063c92c79218f23a552b,
  0x1e34dcff2e,
  0x5521e,
  0x4ed609d9253b2427647,
  0x2a04a,
  0x1facdcff2e,
  0x2cd4a,
  0x4bb935f910bf21d7e4336e8559908d2a063196c632b,
  0x308995f910bf21d7e433068559908e260da1c0c3a8061092c21218423c3a21,
  0x44da6,
  0x9d2c29fb03e85ea7cba9d1253a2427447,
  0x4519b,
  0x466b7,
  0x469a7,
  0x46aa7,
  0x473a7,
  0x474a7,
  0x475a7,
  0x4bb935f910bf21d7e4336e8559908d2a068896d112b,
  0x47aa7,
  0x47ba7,
  0x480a7,
  0x308995f910bf21d7e433068559908e260da1c0c868061092c21218423c8621,
  0x48ea7,
  0x48fa7,
  0x490a7,
  0x491a7,
  0x492a7,
  0x493a7,
  0x494a7,
  0x495a7,
  0x496a7,
  0x497a7,
  0x498a7,
  0x499a7,
  0x49aa7,
  0x49ba7,
  0x49ca7,
  0x49da7,
  0x49ea6,
  0x49fa6,
  0x437b94913aeda65adc9cae7d76c92ed921db23afe23,
  0x2da20,
  0x57732aed255da42bb47,
  0x308995f910bf21d7e433068559908e260da1c0ce38061092c21218423ce321,
  0x433895f910bf21d7e433068559908c72060a3631661,
  0x9d2c29fb046e5ea9eba9d1253a2427447,
  0x9d2c29fb046e5eaa8ba9d1253a2427447,
  0x2db20,
  0x86712bf2217e43afc8660d0ab321189c0b0e61,
  0x15dccafc885f90ebf2198342acc8467302aed255da42bb47,
  0x310995f910bf21d7e433068559908e260da1c0c088099cccc4125882431047,
  0x310995f910bf21d7e433068559908e260da1c0c0880a6eccc4125882431047,
  0x310995f910bf21d7e433068559908e260da1c0c08809aaccc4125882431047,
  0x86712bf2217e43afc8660d0ab32118ec0b0e61,
  0x92275db4cb5c937fb14ff1f61a3e52c7b76c92ed921db23afe23,
  0x62132bf2217e43afc8660d0ab3211c4c1b438198500c4125882431047,
  0x62132bf2217e43afc8660d0ab3211c4c1b438180d00c4125882431047,
  0x62132bf2217e43afc8660d0ab3211c4c1b438189700c4125882431047,
  0x62132bf2217e43afc8660d0ab3211c4c1b438182500c4125882431047,
  0x62132bf2217e43afc8660d0ab3211c4c1b43819c500c4125882431047,
  0x62132bf2217e43afc8660d0ab3211c4c1b43818cb00c4125882431047,
  0x62132bf2217e43afc8660d0ab3211c4c1b438184300c4125882431047,
  0x1244ebb6996b726ff1f61a3e52c7b76c92ed921db23afe23,
  0x1244ebb6996b72702df61a3e5607b76c92ed921db23afe23,
  0x13a5853f608dcbc9d1253a2427447,
  0x1244ebb6996b7270adf61a3e5607b76c92ed921db23afe23,
  0x1244ebb6996b7270b5f61a3e5607b76c92ed921db23afe23,
  0x311996cd10d9a1dad42b4f8462292c452188a3b2920,
  0x18a4cafc885f90ebf2198342acc8467102c51258a2431447,
  0x15dccafc885f90ebf2198342acc846af02aed255da42bb47,
  0x2bb996d110da21daec2b518457692aed215da3b2d20,
  0x17e442fc875f90cc1a15664232181,
  0x92275db4cb5c937fb14ff1f61a3e5327b76c92ed921db23afe23,
  0x15dccafc885f90ebf2198342acc8467502aed255da42bb47,
  0x31b999b3113661e2942bea8463692c6d218da3b2920,
  0x92275db4cb5c937fb14ff1f61a3e5417b76c92ed921db23afe23,
  0x15dccafc885f90ebf2198342acc846ef02aed255da42bb47,
  0x92275db4cb5c937fb14ff1f61a3e54a7b76c92ed921db23afe23,
  0x2bb999e5113ca1e3242bf18457692aed215da3b2d20,
  0x92275db4cb5c937fb14ff1f61a3e54b7b76c92ed921db23afe23,
  0x92275db4cb5c937fb14ff1f61a3e5507b76c92ed921db23afe23,
  0x15dcc9de883bd0e77a18edc29d08436d02aed255da42bb47,
  0x320996e310dc61db242b548464092c81219023b2920,
  0x2bb996e510dca1db2c2b568457692aed215da3b2d20,
  0x1244ebb6996b726ff1f61a3e5327b76c92ed921db23afe23,
  0x4913aeda65adc9d3a7d76c92ed921db23afe23,
  0x1244ebb6996b727061f61a3e5637b76c92ed921db23afe23,
  0x17e442fc875f90cc1a15664232681,
  0x1244ebb6996d326ff1f61a3e54a7b76c92ed921db23afe23,
  0x1244ebb6996d526ff1f61a3e5507b76c92ed921db23afe23,
  0x1244ebb6996b7270b1f61a3e5637b76c92ed921db23afe23,
  0x1244ebb6996b7270b9f61a3e5637b76c92ed921db23afe23,
  0x659332ca225943c3b857bf08cb125962432c47,
  0xd749ba12041e3280c15018220e03,
  0x4913aeda65adc9cc17d76c92ed921db23afe23,
  0x5773332a226543c49857cb08aed255da42bb47,
  0x65f333362266c3c4a857cf08cbd2597a432f47,
  0x4913aeda65adc9cae7d76c92ed921db23afe23,
  0x577333962272c3c5a857d908aed255da42bb47,
  0xd749b992041e3280c15018220e03,
  0xfac9ba12041e3280c15018220e03,
  0x4913aeda65adc9d457d76c92ed921db23afe23,
  0x92275db4cc679376c92ed921db23afe23,
  0xe1691244ebb69976c92ed921db23afe23,
  0x92275db4cd079376c92ed921db23afe23,
  0x4913aeda665ec9c048a76c92ed921db23afe23,
  0x1244ebb69976c92ed921db23afe23,
  0x4913aeda665ec9c118a76c92ed921db23afe23,
  0x139a2d13182da20,
  0x139a2d17982da20,
  0xbf2217e43afc8660d0ab32119b40b843e,
  0x17e442fc875f90cc1a15664232b81,
  0xd1e65adc9bfc7d986f8d1d25a3a434747,
  0x17e442fc875f90cc1a15664233481,
  0x17e442fc875f90cc1a15664232381,
  0xd2665adc9bfc7d9c0f8d2525a4a434947,
  0xaee65adc9bfc7d9c0f8aed255da42bb47,
  0xaee65adc9bfc7d9f4f8aed255da42bb47,
  0x17e442fc875f90cc1a15664233e81,
  0x17e442fc875f90cc1a15664232781,
  0x17e442fc875f90cc1a15664232881,
  0x1244e9c19a77332ee525dca43b94796246b6880f48f1c115,
  0x1244e9c09a77332ee525dca43b94796046b6c80f40f1c015,
  0x1244e9c49a77332ee525dca43b94799846b6880f68f1c415,
  0x1244e9c39a77332ee525dca43b94799646b6c80f60f1c315,
  0x1244eb6d9a77332ee525dca43b94796246b6880f48f36d15,
  0x1244eb6c9a77332ee525dca43b94796046b6c80f40f36c15,
  0x1244eb709a77332ee525dca43b94799846b6880f68f37015,
  0x1244eb6f9a77332ee525dca43b94799646b6c80f60f36f15,
  0x111ae5244ebb69976c92ed921db23afe23,
  0x27e45ada20,
  0x12b162da20,
  0x2489d38134ee665dca4bb9487728f2c08cf40f1c015,
  0x1244ebb69976c92ed921db23be223,
  0x92275db4cb748b76c92ed921db23be223,
  0x2489d38734ee665dca4bb9487728f32c8cf60f1c315,
  0xd82a9e02bbc056780aaf0151e02936051,
  0x6c3573b24e763839553,
  0xd8aa9e02bbc056780aaf0151e02936251,
  0x6f1574164e823839553,
  0x2489d6d934ee665dca4bb9487728f2c08cf40f36c15,
  0x2489d6df34ee665dca4bb9487728f32c8cf60f36f15,
  0xd749ba120,
  0xfac9ba120,
  0x4913a74e69dcccbb94977290ee51d0a119d315,
  0x4913a74e69dcccbb94977290ee51d0b919d315,
  0x4913a74e69dcccbb94977290ee51d10919d315,
  0x4913a74e69dcccbb94977290ee51d12119d315,
  0x1244ebb69976c92ed921db23c5323,
  0xd6e4dfe3ecdf7c,
  0xd7c9ba420,
  0x1bc55b9553,
  0x92275db4cd577676c92ed921db23c7f23,
  0x92275db4cd597676c92ed921db23c8523,
  0xfb49ba420,
  0x6fd2cdf821bf03bb306,
  0x255c9cab70,
  0x7032ce0421c083bb306,
  0x10668966ceffd95dd323a061,
  0x12a689b4cf03995e0b23a361,
  0x1adc9d4d7d,
  0x1adc9d537d,
  0x386a4,
  0xf3c99e770,
  0x25549caa70,
  0x21f49c3e70,
  0x25b49cb670,
  0x25fc9cbf70,
  0x2503bf9f7553d34ca1df93baa26,
  0x22b49c5670,
  0x23049c6070,
  0x230c9c6170,
  0x276c9ced70,
  0x27749cee70,
  0x2a749d024b,
  0x21349c2670,
  0x213c9c2770,
  0x21449c2870,
  0x4d893,
  0x240c9c8170,
  0x241c9c8370,
  0x13ac9a7570,
  0x13d49a7a70,
  0x22af3005e25cb3bbb61,
  0x4c093,
  0x230d133d9e04b2bbe64,
  0x25af3041e26eb3bc261,
  0x288d13cd9e0d32bc564,
  0x50693,
  0x3b499862c4ed125da243b447,
  0x3b49998ec4ed125da243b447,
  0x940eb67aa1143ad26,
  0x231343ed1e,
  0x237b43f31e,
  0x1d8cabb107,
  0x1dc4abb807,
  0x77932ef125de243bc47,
  0x7af32f5d25eba43d747,
  0x77b32ef525dea43bd47,
  0x465a26833c0a65,
  0x49de606bc4d667,
  0x4c1a27433c1665,
  0xf127ea1943c427,
  0x515a27a33c1b65,
  0x529e60ebc4f767,
  0x561a28433c2465,
  0x1fa4dd0f2e,
  0x7b132f6125ec243d847,
  0x7b332f6525eca43d947,
  0x25a8c879f8963c,
  0x4c922,
  0x16d101eb1e,
  0x16d901ea1e,
  0x4e422,
  0x16d101f01e,
  0x16d901ef1e,
  0x16d101f21e,
  0x16d901f11e,
  0x1f7575495d,
  0x16d101e91e,
  0x16d901e81e,
  0x16d101f41e,
  0x16d901f31e,
  0x46d68,
  0x211d754f5d,
  0x3ef9b,
  0x16d101ed1e,
  0x16d901ec1e,
  0x3f2b3,
  0x47768,
  0x3f49b,
  0x1f7cdd0f2e,
  0x254a0bdc30,
  0x43697,
  0x4af63,
  0x25bb29135c,
  0x20045cb861,
  0x4ba20,
  0x4be8f,
  0x4c863,
  0x8d344d167,
  0x92344d465,
  0x94bccd767,
  0x26db292b5c,
  0x207c5cdc61,
  0x4de8f,
  0x413b2,
  0x273c7a276d,
  0x415b3,
  0x98b44e967,
  0x99b44ea67,
  0x9eb44ef65,
  0xa13ccf067,
  0xa3344f567,
  0xa4b44f665,
  0xa63ccf867,
  0x4f98f,
  0x41eb3,
  0x41fb2,
  0x27dc7a306d,
  0xa7344fe67,
  0x4ff2e,
  0xacb450967,
  0xadb450a67,
  0xaf3450b65,
  0xb0bcd0c67,
  0x423ae,
  0xb53451267,
  0x47cac,
  0x47dac,
  0x47ead,
  0x48d97,
  0x18730,
  0x438b8,
  0x439b1,
  0x11050,
  0x18a30,
  0x440b6,
  0x44198,
  0x44297,
  0x443b9,
  0x444b8,
  0x447b1,
  0x4489c,
  0x1ea1e,
  0x44ca5,
  0x11f50,
  0x53d5a,
  0x454b6,
  0x457b8,
  0x4589c,
  0x1ef1e,
  0x1f11e,
  0x45ca5,
  0x45da6,
  0x45fa8,
  0x5485a,
  0x5495d,
  0x1e81e,
  0x14d50,
  0x1f31e,
  0x46ba9,
  0x46ca8,
  0x470a2,
  0x1ec1e,
  0x471b7,
  0x472a7,
  0x476a9,
  0x478a2,
  0x5581e,
  0x482ac,
  0x484ad,
  0x55b76,
  0x55d76,
  0x4879c,
  0x48aa8,
  0x48ca8,
  0x4a716,
  0x1016,
  0x1116,
  0x6f25,
  0x10d30,
  0x9730,
  0x11474,
  0x2137f,
  0x2167f,
  0x11b68,
  0x53816,
  0x11c30,
  0x1235c,
  0x40c8b,
  0x12879,
  0x12c74,
  0x3748b,
  0x2207f,
  0x2237f,
  0x13268,
  0x13468,
  0x13568,
  0x13e68,
  0x14179,
  0x14379,
  0x2291e,
  0x14768,
  0x1485c,
  0x41c8b,
  0x14b79,
  0x2326d,
  0x14f68,
  0x15068,
  0x15168,
  0x15668,
  0x15779,
  0x15a68,
  0x15c68,
  0x15d68,
  0x15f68,
  0x16079,
  0x16279,
  0x2396d,
  0x16368,
  0xfb30,
  0x23c1e,
  0x16b68,
  0x16c68,
  0x16d68,
  0x16e68,
  0x16f79,
  0x5561e,
  0x17968,
  0x55c1e,
  0x2e16,
  0x2f16,
  0x4c16,
  0x4d16]

end JavaNaming.Java.Grammar
