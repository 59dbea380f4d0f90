import TimePanel.Zone.History

/-! The changes of the clocks in some places. -/

namespace TimePanel

namespace ZoneHistory

-- The start of 1800, from which the tables count seconds.
private def tableStart : Int := -5364662400

-- Each entry of the table is a moment and the place of the new offset among the offsets.
private def history (initial : Int) (outlook : Outlook) (offsets : List Int)
    (table : List (Nat × Nat)) : ZoneHistory :=
  { initial, outlook,
    changes := table.map fun (moment, place) => ⟨tableStart + moment, offsets[place]?.getD 0⟩ }

def newYork : ZoneHistory :=
  history (-17762) (.yearly ⟨-18000, -14400, ⟨3, 2, 0, 7200⟩, ⟨11, 1, 0, 7200⟩⟩)
    [-18000, -14400]
    [(2647011600, 0), (3731382000, 1), (3749522400, 0), (3762831600, 1), (3780972000, 0),
     (3794281200, 1), (3813026400, 0), (3828150000, 1), (3841452000, 0), (3860204400, 1),
     (3872901600, 0), (3891654000, 1), (3904956000, 0), (3923103600, 1), (3936405600, 0),
     (3954553200, 1), (3967855200, 0), (3986002800, 1), (3999304800, 0), (4017452400, 1),
     (4030754400, 0), (4049506800, 1), (4062808800, 0), (4080956400, 1), (4094258400, 0),
     (4112406000, 1), (4125708000, 0), (4143855600, 1), (4157157600, 0), (4175305200, 1),
     (4188607200, 0), (4207359600, 1), (4220056800, 0), (4238809200, 1), (4252111200, 0),
     (4270258800, 1), (4283560800, 0), (4301708400, 1), (4315010400, 0), (4333158000, 1),
     (4346460000, 0), (4364607600, 1), (4377909600, 0), (4396662000, 1), (4409359200, 0),
     (4428111600, 1), (4441413600, 0), (4459561200, 1), (4472863200, 0), (4484444400, 1),
     (4595266800, 1), (4599266400, 0), (4617414000, 1), (4630716000, 0), (4648863600, 1),
     (4662165600, 0), (4680313200, 1), (4693615200, 0), (4711762800, 1), (4725064800, 0),
     (4743817200, 1), (4756514400, 0), (4775266800, 1), (4788568800, 0), (4806716400, 1),
     (4820018400, 0), (4838166000, 1), (4851468000, 0), (4869615600, 1), (4882917600, 0),
     (4901065200, 1), (4917391200, 0), (4933119600, 1), (4948840800, 0), (4964569200, 1),
     (4980290400, 0), (4996018800, 1), (5011740000, 0), (5027468400, 1), (5043189600, 0),
     (5058918000, 1), (5075244000, 0), (5090972400, 1), (5106693600, 0), (5122422000, 1),
     (5138143200, 0), (5153871600, 1), (5169592800, 0), (5185321200, 1), (5201042400, 0),
     (5216770800, 1), (5233096800, 0), (5248220400, 1), (5264546400, 0), (5280274800, 1),
     (5295996000, 0), (5311724400, 1), (5327445600, 0), (5343174000, 1), (5358895200, 0),
     (5374623600, 1), (5390344800, 0), (5406073200, 1), (5422399200, 0), (5438127600, 1),
     (5453848800, 0), (5469577200, 1), (5485298400, 0), (5491350000, 1), (5516748000, 0),
     (5527033200, 1), (5548197600, 0), (5563926000, 1), (5580252000, 0), (5595375600, 1),
     (5611701600, 0), (5627430000, 1), (5643151200, 0), (5658879600, 1), (5674600800, 0),
     (5690329200, 1), (5706050400, 0), (5721778800, 1), (5737500000, 0), (5753228400, 1),
     (5769554400, 0), (5784678000, 1), (5801004000, 0), (5816732400, 1), (5832453600, 0),
     (5848182000, 1), (5863903200, 0), (5879631600, 1), (5895352800, 0), (5909266800, 1),
     (5926802400, 0), (5940716400, 1), (5958856800, 0), (5972166000, 1), (5990306400, 0),
     (6003615600, 1), (6021756000, 0), (6035670000, 1), (6053205600, 0), (6067119600, 1),
     (6084655200, 0), (6098569200, 1), (6116709600, 0), (6130018800, 1), (6148159200, 0),
     (6161468400, 1), (6179608800, 0), (6193522800, 1), (6211058400, 0), (6224972400, 1),
     (6242508000, 0), (6256422000, 1), (6273957600, 0), (6287871600, 1), (6306012000, 0),
     (6319321200, 1), (6337461600, 0), (6350770800, 1), (6368911200, 0), (6382825200, 1),
     (6400360800, 0), (6414274800, 1), (6431810400, 0), (6445724400, 1), (6463864800, 0),
     (6477174000, 1), (6495314400, 0), (6508623600, 1), (6526764000, 0), (6538258800, 1)]

def stJohns : ZoneHistory :=
  history (-12652) (.yearly ⟨-12600, -9000, ⟨3, 2, 0, 7200⟩, ⟨11, 1, 0, 7200⟩⟩)
    [-12652, -9052, -12600, -9000, -5400]
    [(2650764652, 0), (3700531852, 1), (3714525052, 0), (3732586252, 1), (3749517052, 0),
     (3766012252, 1), (3774562252, 0), (3797375452, 1), (3813096652, 0), (3828825052, 1),
     (3844546252, 0), (3860879452, 1), (3875995852, 0), (3892329052, 1), (3907445452, 0),
     (3923778652, 1), (3938895052, 0), (3955228252, 1), (3970344652, 0), (3986677852, 1),
     (4002399052, 0), (4018127452, 1), (4033848652, 0), (4050181852, 1), (4065298252, 0),
     (4081631452, 1), (4096747852, 0), (4113081052, 1), (4128197452, 0), (4144530652, 1),
     (4159647052, 0), (4175980252, 1), (4191701452, 0), (4208034652, 1), (4223151052, 0),
     (4239484252, 1), (4254600652, 0), (4267740652, 2), (4270933800, 3), (4286050200, 2),
     (4302991800, 3), (4315689000, 2), (4334441400, 3), (4347138600, 2), (4365891000, 3),
     (4378588200, 2), (4397945400, 3), (4410037800, 2), (4429395000, 3), (4442092200, 2),
     (4460844600, 3), (4473541800, 2), (4492294200, 3), (4595266800, 3), (4599261000, 2),
     (4618618200, 3), (4631315400, 2), (4650067800, 3), (4662765000, 2), (4681517400, 3),
     (4694214600, 2), (4712967000, 3), (4725664200, 2), (4745021400, 3), (4757718600, 2),
     (4775261400, 3), (4788563400, 2), (4806711000, 3), (4820013000, 2), (4838160600, 3),
     (4851462600, 2), (4869610200, 3), (4882912200, 2), (4901059800, 3), (4914361800, 2),
     (4933114200, 3), (4946416200, 2), (4964563800, 3), (4977865800, 2), (4996013400, 3),
     (5009315400, 2), (5027463000, 3), (5040765000, 2), (5058912600, 3), (5075238600, 2),
     (5090967000, 3), (5106688200, 2), (5122416600, 3), (5138137800, 2), (5153866200, 3),
     (5169587400, 2), (5185315800, 3), (5201037000, 2), (5216765400, 3), (5233091400, 2),
     (5248215000, 3), (5264541000, 2), (5280269400, 3), (5295990600, 2), (5311719000, 3),
     (5327440200, 2), (5343168600, 3), (5358889800, 2), (5374618200, 3), (5390339400, 2),
     (5406067800, 3), (5422393800, 2), (5438122200, 3), (5453843400, 2), (5469571800, 3),
     (5485293000, 2), (5501021400, 3), (5516742600, 2), (5532471000, 3), (5548192200, 2),
     (5563920600, 3), (5580246600, 2), (5595370200, 3), (5611696200, 2), (5627424600, 3),
     (5643145800, 2), (5658874200, 3), (5674595400, 2), (5690323800, 3), (5706045000, 2),
     (5721773400, 3), (5737494600, 2), (5753223000, 3), (5769549000, 2), (5784672600, 3),
     (5800998600, 2), (5816727000, 3), (5832448200, 2), (5848176600, 3), (5863897800, 2),
     (5879626200, 3), (5895347400, 2), (5909254260, 3), (5926789860, 2), (5940703860, 4),
     (5958840660, 2), (5972153460, 3), (5990293860, 2), (6003603060, 3), (6021743460, 2),
     (6035657460, 3), (6053193060, 2), (6067107060, 3), (6084642660, 2), (6098556660, 3),
     (6116697060, 2), (6130006260, 3), (6148146660, 2), (6161455860, 3), (6179596260, 2),
     (6193510260, 3), (6211045860, 2), (6224959860, 3), (6242495460, 2), (6256409460, 3),
     (6273945060, 2), (6287859060, 3), (6305999460, 2), (6319308660, 3), (6337449060, 2),
     (6350758260, 3), (6368898660, 2), (6382812660, 3), (6400348260, 2), (6414262260, 3),
     (6431797860, 2), (6445711860, 3), (6463852260, 2), (6477161460, 3), (6495301860, 2),
     (6508611060, 3), (6526751460, 2), (6538246260, 3), (6558805860, 2), (6569695860, 3),
     (6590255460, 2), (6601145460, 3), (6621705060, 2), (6633199860, 3), (6653759460, 2),
     (6664649460, 3), (6685216200, 2)]

def saoPaulo : ZoneHistory :=
  history (-11188) (.constant (-10800))
    [-10800, -7200]
    [(3597447988, 0), (4157704800, 1), (4173300000, 0), (4189287600, 1), (4204836000, 0),
     (4730842800, 1), (4742593200, 0), (4762378800, 1), (4772829600, 0), (4793914800, 1),
     (4804452000, 0), (4825537200, 1), (4833309600, 0), (5169236400, 1), (5180464800, 0),
     (5209498800, 1), (5214592800, 0), (5235764400, 1), (5243536800, 0), (5264708400, 1),
     (5275072800, 0), (5296244400, 1), (5306695200, 0), (5864410800, 1), (5875898400, 0),
     (5895255600, 1), (5904928800, 0), (5926791600, 1), (5935860000, 0), (5957636400, 1),
     (5966704800, 0), (5989086000, 1), (5999364000, 0), (6021140400, 1), (6031418400, 0),
     (6052590000, 1), (6062263200, 0), (6084644400, 1), (6093108000, 0), (6115489200, 1),
     (6126372000, 0), (6146938800, 1), (6157821600, 0), (6178388400, 1), (6188666400, 0),
     (6209233200, 1), (6220720800, 0), (6240769200, 1), (6253380000, 0), (6272737200, 1),
     (6284224800, 0), (6303582000, 1), (6316279200, 0), (6335636400, 1), (6347124000, 0),
     (6367690800, 1), (6378573600, 0), (6400954800, 1), (6410023200, 0), (6431194800, 1),
     (6441472800, 0), (6464026800, 1), (6473527200, 0), (6494094000, 1), (6504976800, 0),
     (6527358000, 1), (6537031200, 0), (6556993200, 1), (6567876000, 0), (6589047600, 1),
     (6599325600, 0), (6620497200, 1), (6631380000, 0), (6651946800, 1), (6662829600, 0),
     (6683396400, 1), (6694884000, 0), (6715450800, 1), (6725728800, 0), (6746900400, 1),
     (6757178400, 0), (6778350000, 1), (6789232800, 0), (6809799600, 1), (6820682400, 0),
     (6841249200, 1), (6852132000, 0), (6872698800, 1), (6883581600, 0), (6905962800, 1),
     (6915031200, 0)]

def buenosAires : ZoneHistory :=
  history (-14028) (.constant (-10800))
    [-15408, -14400, -10800, -7200]
    [(2992564428, 0), (3797209008, 1), (4131230400, 2), (4141681200, 1), (4158705600, 2),
     (4170625200, 1), (4191796800, 2), (4202161200, 1), (4223332800, 2), (4233697200, 1),
     (4254868800, 2), (4265233200, 1), (4286404800, 2), (4296855600, 1), (4318027200, 2),
     (4328391600, 1), (4349563200, 2), (4359927600, 1), (4381099200, 2), (4391463600, 1),
     (4412635200, 2), (4423086000, 1), (4433630400, 2), (4463780400, 1), (4474324800, 2),
     (4530913200, 1), (4537396800, 2), (4612388400, 1), (4630881600, 2), (5167335600, 1),
     (5173819200, 2), (5180468400, 1), (5200171200, 2), (5212004400, 1), (5231707200, 2),
     (5243540400, 1), (5263243200, 2), (5277841200, 1), (5293569600, 2), (5309895600, 1),
     (5325624000, 2), (5341345200, 1), (5357073600, 2), (5492804400, 3), (5501268000, 2),
     (5961610800, 3), (5969728800, 2), (5989086000, 3), (6001178400, 2), (6021140400, 3),
     (6032628000, 2), (6052590000, 3), (6064077600, 2), (6084039600, 3), (6096132000, 2),
     (6303582000, 2), (6316714800, 2), (6563646000, 3), (6570295200, 2), (6589047600, 3),
     (6601744800, 2)]

def panama : ZoneHistory :=
  history (-19088) (.constant (-18000))
    [-19176, -18000]
    [(2840159888, 0), (3417743976, 1)]

def london : ZoneHistory :=
  history (-75) (.yearly ⟨0, 3600, ⟨3, 5, 0, 3600⟩, ⟨10, 5, 0, 7200⟩⟩)
    [0, 3600, 7200]
    [(1512000075, 0), (3672698400, 1), (3684189600, 0), (3700519200, 1), (3714516000, 0),
     (3730759200, 1), (3747175200, 0), (3762813600, 1), (3778624800, 0), (3794263200, 1),
     (3812493600, 0), (3826317600, 1), (3842128800, 0), (3857162400, 1), (3874096800, 0),
     (3891031200, 1), (3903732000, 0), (3921876000, 1), (3935786400, 0), (3953930400, 1),
     (3968445600, 0), (3985380000, 1), (3999895200, 0), (4016224800, 1), (4031344800, 0),
     (4048884000, 1), (4063399200, 0), (4080333600, 1), (4094848800, 0), (4111178400, 1),
     (4126298400, 0), (4143232800, 1), (4157748000, 0), (4174682400, 1), (4189197600, 0),
     (4205527200, 1), (4221252000, 0), (4238186400, 1), (4252701600, 0), (4269031200, 1),
     (4284151200, 0), (4301085600, 1), (4315600800, 0), (4332535200, 1), (4347050400, 0),
     (4363380000, 1), (4378500000, 0), (4395434400, 1), (4414183200, 0), (4422650400, 1),
     (4460144400, 2), (4468611600, 1), (4489174800, 2), (4500061200, 1), (4520624400, 2),
     (4532115600, 1), (4552074000, 2), (4566589200, 1), (4583610000, 2), (4592595600, 1),
     (4599856800, 0), (4616186400, 1), (4631306400, 0), (4645216800, 1), (4647632400, 2),
     (4657914000, 1), (4665175200, 0), (4676666400, 1), (4696624800, 0), (4709930400, 1),
     (4728074400, 0), (4742589600, 1), (4758919200, 0), (4774039200, 1), (4790368800, 0),
     (4806093600, 1), (4822423200, 0), (4837543200, 1), (4852058400, 0), (4868388000, 1),
     (4883508000, 0), (4900442400, 1), (4914957600, 0), (4932496800, 1), (4947012000, 0),
     (4963341600, 1), (4978461600, 0), (4995396000, 1), (5009911200, 0), (5026845600, 1),
     (5041360800, 0), (5057690400, 1), (5072810400, 0), (5087930400, 1), (5106679200, 0),
     (5119380000, 1), (5138128800, 0), (5151434400, 1), (5169578400, 0), (5182279200, 1),
     (5201028000, 0), (5213728800, 1), (5232477600, 0), (5245178400, 1), (5263927200, 0),
     (5276628000, 1), (5295981600, 0), (5305658400, 1), (5327420400, 1), (5422384800, 0),
     (5434480800, 1), (5453834400, 0), (5465930400, 1), (5485284000, 0), (5497380000, 1),
     (5516733600, 0), (5528829600, 1), (5548183200, 0), (5560884000, 1), (5579632800, 0),
     (5592333600, 1), (5611082400, 0), (5623783200, 1), (5643136800, 0), (5655232800, 1),
     (5674586400, 0), (5686682400, 1), (5706036000, 0), (5719338000, 1), (5737482000, 0),
     (5750787600, 1), (5768931600, 0), (5782237200, 1), (5800381200, 0), (5813686800, 1),
     (5832435600, 0), (5845741200, 1), (5863885200, 0), (5877190800, 1), (5895334800, 0),
     (5908640400, 1), (5926784400, 0), (5940090000, 1), (5958234000, 0), (5971539600, 1),
     (5990288400, 0), (6002989200, 1), (6021738000, 0), (6035043600, 1), (6053187600, 0),
     (6066493200, 1), (6084637200, 0), (6097942800, 1), (6116086800, 0), (6129392400, 1),
     (6147536400, 0), (6160842000, 1), (6178986000, 0), (6192896400, 1)]

def casablanca : ZoneHistory :=
  history (-1820) (.constant 3600)
    [0, 3600]
    [(3591649820, 0), (4408300800, 1), (4414172400, 0), (4422643200, 1), (4603474800, 0),
     (4747420800, 1), (4759513200, 0), (5283230400, 1), (5293551600, 0), (5505926400, 1),
     (5511884400, 0), (5564419200, 1), (5572364400, 0), (5595955200, 1), (5608911600, 0),
     (5630169600, 1), (5635695600, 0), (5812905600, 1), (5869580400, 0), (6576940800, 1),
     (6584886000, 0), (6608476800, 1), (6615471600, 0), (6637420800, 1), (6645884400, 0),
     (6666451200, 1), (6676729200, 0), (6700327200, 1), (6707412000, 0), (6710090400, 1),
     (6713632800, 0), (6731776800, 1), (6737824800, 0), (6740762400, 1), (6747501600, 0),
     (6760807200, 1), (6768583200, 0), (6771607200, 1), (6778951200, 0), (6792256800, 1),
     (6798909600, 0), (6801933600, 1), (6810400800, 0), (6823706400, 1), (6829754400, 0),
     (6832778400, 1), (6842455200, 0), (6855156000, 1), (6859994400, 0), (6863623200, 1),
     (6873904800, 0), (6886605600, 1), (6890839200, 0), (6893863200, 1), (6921684000, 0),
     (6924708000, 1), (6951924000, 0), (6955552800, 1), (6982768800, 0), (6985792800, 1),
     (7013008800, 0), (7016637600, 1), (7043853600, 0), (7046877600, 1), (7074698400, 0),
     (7077722400, 1), (7104938400, 0), (7108567200, 1), (7135783200, 0), (7138807200, 1),
     (7166628000, 0), (7169652000, 1), (7196868000, 0), (7200496800, 1), (7227712800, 0),
     (7230736800, 1), (7257952800, 0), (7261581600, 1), (7288797600, 0), (7291821600, 1),
     (7319642400, 0), (7322666400, 1), (7349882400, 0), (7353511200, 1), (7380727200, 0),
     (7383751200, 1), (7410967200, 0), (7414596000, 1), (7441812000, 0), (7445440800, 1),
     (7472656800, 0), (7475680800, 1), (7502896800, 0), (7506525600, 1), (7533741600, 0),
     (7536765600, 1), (7564586400, 0), (7567610400, 1), (7594826400, 0), (7598455200, 1),
     (7625671200, 0), (7628695200, 1), (7655911200, 0), (7659540000, 1), (7686756000, 0),
     (7690384800, 1), (7717600800, 0), (7720624800, 1), (7747840800, 0), (7751469600, 1),
     (7778685600, 0), (7781709600, 1), (7809530400, 0), (7812554400, 1), (7839770400, 0),
     (7843399200, 1), (7870615200, 0), (7873639200, 1), (7900855200, 0), (7904484000, 1),
     (7931700000, 0), (7935328800, 1), (7962544800, 0), (7965568800, 1), (7992784800, 0),
     (7996413600, 1), (8023629600, 0), (8026653600, 1), (8054474400, 0), (8057498400, 1),
     (8084714400, 0), (8088343200, 1), (8115559200, 0), (8118583200, 1), (8145799200, 0),
     (8149428000, 1), (8176644000, 0), (8180272800, 1), (8207488800, 0), (8210512800, 1),
     (8237728800, 0), (8241357600, 1), (8268573600, 0), (8271597600, 1), (8299418400, 0),
     (8302442400, 1), (8329658400, 0), (8333287200, 1), (8360503200, 0), (8363527200, 1),
     (8390743200, 0), (8394372000, 1), (8421588000, 0), (8425216800, 1), (8452432800, 0),
     (8455456800, 1), (8482672800, 0), (8486301600, 1), (8513517600, 0), (8516541600, 1),
     (8544362400, 0), (8547386400, 1), (8574602400, 0), (8578231200, 1), (8605447200, 0),
     (8608471200, 1), (8635687200, 0), (8639316000, 1), (8666532000, 0), (8670160800, 1),
     (8697376800, 0), (8700400800, 1), (8727616800, 0), (8731245600, 1), (8758461600, 0),
     (8761485600, 1), (8789306400, 0), (8792330400, 1), (8819546400, 0), (8823175200, 1),
     (8850391200, 0), (8853415200, 1), (8880631200, 0), (8884260000, 1), (8911476000, 0),
     (8914500000, 1), (8942320800, 0), (8945344800, 1), (8972560800, 0), (8976189600, 1),
     (9003405600, 0), (9006429600, 1), (9034250400, 0), (9037274400, 1), (9064490400, 0),
     (9068119200, 1)]

def tokyo : ZoneHistory :=
  history 33539 (.constant 32400)
    [32400, 36000]
    [(2776950000, 0), (4680860400, 1), (4692351600, 0), (4709890800, 1), (4723801200, 0),
     (4744364400, 1), (4755250800, 0), (4775814000, 1), (4786700400, 0)]

def kolkata : ZoneHistory :=
  history 21208 (.constant 19800)
    [21200, 19270, 19800, 23400]
    [(1719425192, 0), (2208967600, 1), (3344956730, 2), (4473081000, 3), (4492603800, 2),
     (4502025000, 3), (4600517400, 2)]

def kathmandu : ZoneHistory :=
  history 20476 (.constant 20700)
    [19800, 20700]
    [(3786718724, 0), (5869564200, 1)]

def lordHowe : ZoneHistory :=
  history 38180 (.yearly ⟨37800, 39600, ⟨10, 1, 0, 7200⟩, ⟨4, 1, 0, 7200⟩⟩)
    [36000, 37800, 41400, 39600]
    [(3000547420, 0), (5716879200, 1), (5737447800, 2), (5748935400, 1), (5769502200, 2),
     (5780385000, 1), (5800951800, 2), (5811834600, 1), (5832401400, 2), (5843284200, 1),
     (5863851000, 3), (5875945200, 1), (5894695800, 3), (5907394800, 1), (5926750200, 3),
     (5939449200, 1), (5958804600, 3), (5970898800, 1), (5990254200, 3), (6001138800, 1),
     (6021703800, 3), (6032588400, 1), (6053153400, 3), (6064038000, 1), (6084603000, 3),
     (6096092400, 1), (6116657400, 3), (6127542000, 1), (6148107000, 3), (6158991600, 1),
     (6179556600, 3), (6192860400, 1), (6211006200, 3), (6224310000, 1), (6242455800, 3),
     (6255759600, 1), (6273905400, 3), (6287209200, 1), (6305959800, 3), (6318658800, 1),
     (6331966200, 3), (6350108400, 1), (6368859000, 3), (6382162800, 1), (6400308600, 3),
     (6413612400, 1), (6431758200, 3), (6445062000, 1), (6463812600, 3), (6476511600, 1),
     (6495262200, 3), (6508566000, 1), (6526711800, 3), (6539410800, 1), (6558161400, 3),
     (6572070000, 1), (6587796600, 3), (6603519600, 1), (6619246200, 3), (6634969200, 1),
     (6650695800, 3), (6666418800, 1), (6682145400, 3), (6697868400, 1), (6714199800, 3),
     (6729922800, 1), (6745649400, 3), (6761372400, 1), (6777099000, 3), (6792822000, 1),
     (6808548600, 3), (6824271600, 1), (6839998200, 3), (6855721200, 1), (6871447800, 3),
     (6887170800, 1), (6903502200, 3), (6919225200, 1), (6934951800, 3), (6950674800, 1),
     (6966401400, 3), (6982124400, 1), (6997851000, 3), (7013574000, 1), (7029300600, 3),
     (7045023600, 1), (7060750200, 3), (7077078000, 1), (7092804600, 3), (7108527600, 1),
     (7124254200, 3), (7139977200, 1), (7155703800, 3), (7171426800, 1), (7187153400, 3),
     (7202876400, 1), (7218603000, 3), (7234326000, 1), (7250657400, 3), (7266380400, 1),
     (7282107000, 3), (7297830000, 1), (7313556600, 3), (7329279600, 1), (7345006200, 3),
     (7360729200, 1), (7376455800, 3), (7392178800, 1), (7407905400, 3), (7423628400, 1),
     (7439959800, 3), (7455682800, 1), (7471409400, 3), (7487132400, 1), (7502859000, 3),
     (7512146047, 3)]

def apia : ZoneHistory :=
  history 45184 (.constant 46800)
    [-41216, -41400, -39600, -36000, 50400, 46800]
    [(2919238016, 0), (3502783616, 1), (4733551800, 2), (6650161200, 3), (6666415200, 2),
     (6681535200, 3), (6689901600, 4), (6697864800, 5), (6713589600, 4), (6729919200, 5),
     (6745039200, 4), (6761368800, 5), (6776488800, 4), (6792818400, 5), (6807938400, 4),
     (6824268000, 5), (6839388000, 4), (6855717600, 5), (6870837600, 4), (6887167200, 5),
     (6902892000, 4), (6919221600, 5), (6934341600, 4), (6950671200, 5), (6965791200, 4),
     (6982120800, 5)]

end ZoneHistory

end TimePanel
