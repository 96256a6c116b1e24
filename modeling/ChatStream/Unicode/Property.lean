import ChatStream.Unicode.Packed

/-! # Character properties

The properties of code points that the checks of domain names and the quoting of text look at:
the bidirectional class, the joining type, whether a code point is a mark, whether it extends a
grapheme cluster, and whether it is printable. Each comes from a packed table read once.
-/

namespace ChatStream.Unicode

/-- The bidirectional class of a code point. -/
inductive BidiClass where
  | L | R | AL | EN | ES | ET | AN | CS | NSM | BN | B | S | WS | ON
  | LRE | LRO | RLE | RLO | PDF | LRI | RLI | FSI | PDI
  deriving Repr, DecidableEq

/-- The classes in the order the table numbers them. -/
def BidiClass.all : List BidiClass :=
  [.L, .R, .AL, .EN, .ES, .ET, .AN, .CS, .NSM, .BN, .B, .S, .WS, .ON,
   .LRE, .LRO, .RLE, .RLO, .PDF, .LRI, .RLI, .FSI, .PDI]

/-- How a code point joins its neighbours in cursive scripts. -/
inductive JoiningType where
  /-- Non-joining. -/
  | U
  /-- Join causing. -/
  | C
  /-- Dual joining. -/
  | D
  /-- Left joining. -/
  | L
  /-- Right joining. -/
  | R
  /-- Transparent. -/
  | T
  deriving Repr, DecidableEq

/-- The types in the order the table numbers them. -/
def JoiningType.all : List JoiningType := [.U, .C, .D, .L, .R, .T]

/-- Bidirectional classes other than left-to-right: ranges as gap, length and the position of the
class in the order of the constructors of BidiClass. -/
def bidiClassText : String :=
  String.join [
    "09901B01A01B01C01A0E903A01B01C02D03505D0140170140270A301706DQ6DQ4D06901A0Q901701D04504D12D01",
    "902D02502301D13D01315DN1DV1Dk12D7ED2ED59D1HD0ZG842D81D52D11DZE1DaC78e01D22D0151XD80110180110",
    "280110280110188R1461B6602D01202501201701202D0B80XG20L80A60150260320180Z5207801601D0680220280",
    "1D0480220A30K21220180U20R82YP20B8012EXB109802104D0112180O10480110980110380110582F11P10382111",
    "B25X020265980XA20O80160X08XN18118488418378A28T18XQ18448818K28E25715218228XP18428428238318U28",
    "318B28XP18458128418K28D15868118XQ18218148818728B28U18XT18C18X56D01501D518318XN18138538148728",
    "B28K7D218XQ18F28K28S28XP28448818K28T18Y818738118YQ18278415788Z218298B78Y928R1811811804DXJE81",
    "581285B81X48918Z648168128228P28438G48D18228618F18rV38XGADZ61DpV1CQ2DZL38T28U28U28Y0281788182",
    "B8715118IAD6BD038019018ZL28X218ZM3842891863841D32DaOX2DN28218XQ181781181182886A8218XGXE82C8K",
    "48XG18148218518X898C28X048228138XO18128318138XQ88228aO381D8178418618328c6Y08jT1D13DB3DD3DD3D",
    "D2D1BC0391110OD01C01A01E01G01I01F01H0170550FD0170QD01C05911J01K01L01M06901336302403D1A302403",
    "DHX25EX18F2D14D12DA1D13D56D11D11D11D415B2D45D54D2GDX93D4a2D0140150f2DY5QD1aKDMBDLX8D0K3YEk2D",
    "1gJDe0pKD2aADd56D43877DZV18Z0X080YUDX2QD1YPDCcMDQGD01C04D3PD94821D52D53DYP2802D31DYQ1Dc4X6D9",
    "1DXD2DXHGDS3DXIFDC4Db74DZ32DV1Dck0Y0DrqGXNDg63DYV4801D0A802DU28YG28EX2DZ61DZP18318418P2814D0",
    "18B25XQ4DYC28QI8D18X688PB8XE38XG18248228X718Y368228228C18818XF18XJ18138228528118XA28818ZJ2DZ",
    "P18218418pvF110180A10140D11511111211211A10ZJ20GD0hB20ID0Y0202D0XM208DX0D203D0G80AD6G80X0D017",
    "01D01711D01709D01502D02403D11D02501D4521a7221912D03505D0140170140270A301706DQ6DQBDZQ2503D025",
    "17DA5De31DXUYDD3DD31DYS18d2180R3ZQ58Xa5612111XC11213112N11Y81891XGJ11215X1131D0Q15R1X6XO14K1",
    "2XF10381285480411311T12384180917917Y01X0X510284C19XM137D0M12R15Q1741C71YGY91XNXJ1DXJ17610X42",
    "0488A66A60S13580O1821cGV61XA1128011221G6281208DX1680X818M20B8092MI1048041X6S1KN1A18XMF8BKDA1",
    "8228A38XH48228718XT38X458188XU18C28XK98A48218YV38218128618218aT18388L28XP28318X578358Y668D18",
    "118118E28YL88238118N18YK68118428128dE48628128R28YL88218128VDDXU18118268118Z518118248158e3981",
    "28e028118418aG48228418X068228X868248818968238XED8128c618138118c978168YKM8278128128ZQ68318128",
    "178118Y828318118gR28B28XK58518118N18ZQ8D0450HDbYE186F8hc8C8338Yk058XR78XWO18XV48YF1D118pbO28",
    "149ZwSdGD0A303D3jKD6NDFHDFXE82N8n038989088278U48XR2DLY2D03801DbQYNDy41DXP1DXP1DXP1DXP1DAXI3m",
    "0XN84XI8818E18M581F8XgG781H8278128158Z418b078hN18XT48F15lC48dU28dJ18218728518eAc51291078X9Y4",
    "10780114A1421uHY42YCXT2c2421R21221122121A214211211261241211211213212211221211211211211212211",
    "22421721421421121A21H25321521H2XK2DeEXCD4Z4DCFD2FD1FD1X5DAB305DV1DXQ6DXT1DbI6DaQ<PD3HD3DD3cQ",
    "D6CD41DFCD4XOD8AD6X8D8UD2CD42DE9DX7gOD8ED2DD3BD3XPD11D4GD2CD4AD7aJD1YSD0A301DuXW619UZ09a0dG8"]

/-- Joining types other than non-joining: ranges as gap, length and the position of the type in the
order of the constructors of JoiningType. -/
def joiningTypeText : String :=
  String.join [
    "bD15oIZG5eJ75e7XD5115125125115Y8B51153121440120140120140520440D20110720140220L5E220150341340",
    "G20I40X62014022094012014012014022024114075265225145024A32212F1501401503205404201409201401201",
    "40120140220140R52140B20340F2024042014012024032024062X6B5PX12095611215O45195135155I1405202401",
    "20140A20140120340354121421140120245J40310122520140127950A20341140220240620140F21O51X05XN1511",
    "5485415375A25T15XQ15445815K25Q15225XP15425425235315U25315B25XP15455125415K25M65115XQ15215145",
    "815725B25U15XT15C15XI15315XN15135535145725B25T15XQ15215615525K25S25XP25445815K25T15Y81573511",
    "5YQ15275C85Z215295B75Y925R15115115XNE51551255B51X45915Z645165125225P25435G45D15225615F15rV35",
    "zI35T25U25U25Y0251758152B5915X912211035115GYP2C250X22015012ZL35425915635cR25215XQ15175115115",
    "2856A5215XGXE52C5K45XG15155115515X895C25X045225135XO15125315135XQ85225aO351D5175415615325c6Y",
    "05mB15111025Q55XH55565Z0X15Y>U35aD15Z0X05nA45ZB25zkK451A5X025YG25eG15315415P25515JXI2013YH25",
    "QI5D15X685PB5XE35XG15245225X715Y365225225C15815XF15XJ15135225525115XA25815dE15215415pvG15t1G",
    "5GG5cF15dP35m115d215aL55Xq635125545X835415a052014114124213054042013052014032014214025442014a",
    "G12014012034032014022014012024012014N44022gH130X12014012045Y155fT25L14022122XI65XG320140H21B",
    "5032014R420240C2045XA12122034112024022014022112024012414012013XL15XMF5X915225A35XH45225715XT",
    "35X455185XU15C25XK95A45215YV35215125615215aT15385L25XP25315X575355Y665D15115115E25YL85235115",
    "N15YK65115425125dE45625125R25YL85215125ZA15115265115Z515115245155e395125e025115415aG45225415",
    "X0A5X865245815965235XED5125c615135115c975165115YIM5275125125ZQ65315125175115Y825315115gR25B2",
    "5XK55515115N15bcLH56F5hc8C5335Yk055XR75XWO15XV45YH15pbO25145aoSXE52N5n0359G5275U45aK35XzRXN5",
    "4XI5815E15M551F5XgG751H5275125155Z415b075hN15XT45lS45dU25dJ15215725515kQ75X9Y42085ubrL15UZ05",
    "a0dG5"]

/-- The marks (general categories Mn, Mc and Me): ranges as gap and length. -/
def markText : String :=
  String.join [
    "u0ZGeJ7e7XD11121211Y8BXGLG1Z57262214X31URYRBXQ991O4191315XB3XR9XAO1X1XM31I17A2T3XO117222391A",
    "2Q123XO115422331U231B3XO1181313K2M613XO117222373A2U1XR5331491X85XN117131472B2T3XO117131472B2",
    "F1C4XN217131491A2T3Y61461118I2XT127C8Z2129B7Y92R1111142XHK125B1X491Z4KN443132734DC11A4rV3zI4",
    "S3T2U2Y0X091XD311ZL2X21ZMC4CcR5XPA1T21XGXE2CK5XFHX69C3UDXOEXGKaO31L416123c6Y0sGX1Y>U3aD1Z0X0",
    "nA6Z92zkK41AX02YG2eG13141N541YJ2XIIQID1X68PDXC4XFEX41Y3EC182XD3XI113225211X9552dC812pvG1t1GG",
    "G<D1d21aL5Xq631254X8341b52nT4Y15fT2YD6Y6BXH4ZQ3XLFX9122A4XDB71XT3X4EG2XC1C3XGE8412YSC6121aTC",
    "L4XN217222391A22735Y391121141511E2YIIN1YHKdB729R2YIHZADZ5Fe0FdL612241112aD72731SAX8714819BXE",
    "Gc68c7818YIM1EZQ631121711Y251215gR49211XG735N1bd516Fhc8IYk05XR7XWO11XN74YH1B2pbB2ap1XE2NmU53",
    "68827U4aK3XzRXN4XI81E1M51FXgG71H271215Z41b07hN1XT4lS4dU2dJ1217251kQ7ZD7ubzLdG"]

/-- The code points that extend a grapheme cluster, the halfwidth sound marks aside: ranges as gap
and length. -/
def graphemeExtendText : String :=
  String.join [
    "u0ZGeJ7e7XD11121211Y8BXGLG1Z57262214X31URYRBXQ991O4191315XB3XR9XAO1X0XN111484137A2T1XQ111248",
    "191A2Q122XP142422331U231B2XP1451241K2M611XQ112148173A2U1XR111C191X8131XN113531472B2T1XQ12211",
    "331472B2S2XP211248191A2T1Y8141231181YH127C8Z2129B7Y92R11111XNE15125B1X491Z64161222P243G4D122",
    "61F1rV3zI4S3T2U2Y0217812B91XD311ZL2X21ZM3429163cR221XQ1171111286A21XGXE2CK4XGA43X69C2X0426XO",
    "1123115XO822aO31D17416132c6Y0mC1c3X1Y>U3aD1Z0X0nA6Z92zkK41AX02YG2eG13141P251aN2QID1X68PB11XC",
    "3XG1242221X41Y362222C181XF1XJ113225211XA281dE12141pvG1t1GGG<D1d21aL5Xq631254X8341b52nT4Y15fT",
    "2YD6Y6BXH4ZR1XMFX9122A3XH42271XT3X4518XU1C2XK9118421YV3246121aT138L2XP21111C191E735Y31261121",
    "134311E2YL82311N1YH12611211212dB1246212R2YL82112ZA11128Z51112415e3912dL1A441aG42241X0AX86248",
    "19623XED12c611311c971611YIM271212ZQ631121711Y823111gR2B2XK553N1bd516Fhc8C33Yk05XR7XWO1XV4YH1",
    "B2pbB2ap1XE2NmU5368827U4aK3XzRXN4XI81E1M51FXgG71H271215Z41b07hN1XT4lS4dU2dJ1217251kQ7ZD7ubsL",
    "Z0a0dG"]

/-- The code points that are not printable (controls, format characters, surrogates, private use,
unassigned code points, separators other than the space, and the code points that are ignorable by
default, such as the Hangul fillers): ranges as gap and length. -/
def unprintableText : String :=
  String.join [
    "0X0YVX2C1r11X82647111K1iD1X62XI231XN8R46HM1c01XG2XR2Z5EXR2XH2F1S211B5X07YB1b118222M171134292",
    "2248142152P2316422M17121212211542233174117HA319131M1712152A131321F42C771318222M1712152922237",
    "342152IA216331432111232333C4533142161EL5D131N1G291314721312242A7M131N1A152913147253142A13CD1",
    "31XJ13164G2Q131I3O191127314611186A23CXQ4TX5211151O111N2511171A24X0Y81X44X71X41F1DX5c611512aF",
    "2d8142711142X9142X1142711142F1XP142Y32X03Q6YM262q01S3YP7M9O9KCD1312CXK2X82A6A6B5A6YP7XB5Y6AV",
    "1C4C413XA25BXC4Q6B3XU2Y11T2B6A6E2XE2CKYD1b68XS3F3XU5XB2B8XB5mM262X626281111111V2XL1F1E261J23",
    "19HO8XFH22R1D3X2EX1FaC4qQMBLXuK2hU5XD11512XO72EO97171717171717171ZUX2Q1YPCcMQG1XV1YM2Z75XB1X",
    "J1XA1YM9XG1ypD3XN9gSKbO8cTKXS3A6XO8Y68C6ZKBU3YE1B4X11XN9E2A2Z7OSA6262697171XS4ZU2A6gz4CN4XH4",
    "YW0ce0hE2ZAX67C55Q151112121qAX0GGA6XJ1J14451a74aV1U362626233717D22C1Q1J121F2EX2ZR534XD3YO1D3",
    "1XFXEa2T3XHFS4X49U5XB5U1X54EXAaU2A6X44X44X88XKBC1F17121B1F17123XKCfN9MA8O61XA19Y56211XC12312",
    "N1Y889XGJ125X13R5RX6XO4K2XI1258131T234A797Y0X0X74C9XM3T2R5Q74C7YGY9XNXJDXJ7XE8A6X63T82cGV1XA",
    "1322G689X1XE8XAMQX6SKN9YE4X49XU15DP7A6XL1I8X79Z01KBI1XFXU711141F1B6XR5A6418222M1712151A22232",
    "161572735BA11211X61A1121141A1282TYS15UY88Ab6XM2X6X2Y5BA6DJXQ6A6KSR2F4NbPXSZ4YJC82128121U122C",
    "9AY682XE2BRY88YJDY97AYM8YOX2EA691XD1EAT3X02M1EY97121XC3112198A66121X512167A6XC4AdMP7H1X93TYL",
    "1FXIDyRZ6ZF15Bc4YoCZ3DXXGGMAZyR5o7crPXQXs6nP7V1A4YH1A6U26AY6AA171L5JjGXQc6YR5P2PXCYB4XP7HY05",
    "B79dcMX9X0Z1ZJelT417121f3F1T321E48iCYe4ZB5D397A24Zx0dT3jK6NFHFXE2N9ZKXSdMAX72YA8ZGLY6ZQKCKCY",
    "N9Pa7YL1Y7122122241C11171Y11428171S141511371gK2f42rUF51FXYGV66cL71H2712155XUX11ZGXD3E2A42g0V",
    "HXQ51kGXAcMXB41c0V1M82d0714121F1c52GX9YC4A42uHY4YCXTc241R1211211A141111614111111312112111111",
    "111121124171414111A1H53151HXK2eEXC4Z4CF2F1F1X5AbEXOTDXC4972E6aQ<P3H3D3cQ6C41FC4XO8A6X88U2C42",
    "E9X7gO8E2D3B3XP114G2C4A7aJ1Z7XW5Xft0X0aeU2bqE2dfHFpEYj2mUXl2awB5efAxoy6"]

/-- The bidirectional classes, read once. -/
def bidiClassTable : RangeTable := .read bidiClassText

def joiningTypeTable : RangeTable := .read joiningTypeText

def markTable : RangeTable := .readSet markText

/-- The grapheme extenders, read once. -/
def graphemeExtendTable : RangeTable := .readSet graphemeExtendText

/-- The unprintable code points, read once. -/
def unprintableTable : RangeTable := .readSet unprintableText

/-- The bidirectional class of a code point. -/
def bidiClass (cp : Nat) : BidiClass := (BidiClass.all[bidiClassTable.get cp]?).getD .L

def joiningType (cp : Nat) : JoiningType := (JoiningType.all[joiningTypeTable.get cp]?).getD .U

/-- Whether a code point is a mark (general category M). -/
def isMark (cp : Nat) : Bool := markTable.contains cp

/-- Whether a code point extends a grapheme cluster. -/
def isGraphemeExtend (cp : Nat) : Bool := graphemeExtendTable.contains cp

/-- Whether a code point is printable: not a control, format character, surrogate, private use
or unassigned code point, nor a separator other than the space. -/
def isPrintable (cp : Nat) : Bool := !unprintableTable.contains cp

end ChatStream.Unicode
