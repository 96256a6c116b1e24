import ChatStream.Unicode.Packed

/-! # The mapping of domain names

Before a domain name is checked and written in ASCII, every code point in it is mapped: it is
valid and kept, a deviation (a character two standards treat differently, kept here), ignored and
dropped, disallowed, or mapped to a replacement of one or more code points (case folding and
compatibility forms: `A` to `a`, `ﬁ` to `fi`, `㎏` to `kg`). The table covers every code
point; it is stored packed and read once.
-/

namespace ChatStream.Unicode

/-- What the mapping does with a code point. -/
inductive Status where
  | valid
  | deviation
  | ignored
  | disallowed
  | mapped (replacement : List Nat)
  deriving Repr, DecidableEq

/-- The mapping table of domain names: for each range of code points its length and status code (0
valid, 1 deviation, 2 ignored, 3 disallowed, 4 mapped); a mapped range is followed by the length and
the code points of its replacement. -/
def mappingText : String :=
  String.join [
    "Y10141Z1141Z2141Z3141Z4141Z5141Z6141Z7141Z8141Z9141ZA141ZB141ZC141ZD141ZE141ZF141ZG141ZH141Z",
    "I141ZJ141ZK141ZL141ZM141ZN141ZO141ZP141ZQX50X03141X070142X0u810141Z1201210142X0u420141XI141X",
    "J142X0u1141zS20142X0v7141XH141ZF10143XHeY4XK143XHeY4XI143XJeY4XK10141d0141d1141d2141d3141d41",
    "41d5141d6141d7141d8141d9141dA141dB141dC141dD141dE141dF141dG141dH141dI141dJ141dK141dL141dM101",
    "41dO141dP141dQ141dR141dS141dT141dU11X00141e110141e310141e510141e710141e910141eB10141eD10141e",
    "F10141eH10141eJ10141eL10141eN10141eP10141eR10141eT10141eV10141f110141f310141f510141f710141f9",
    "10141fB10141fD10141fF10142Z9u710242Z9ZA141fL10141fN20141fQ10141fS10141fU10242ZCbN141g210141g",
    "410141g610141g810142rSZE141gB10141gD10141gF10141gH10141gJ10141gL10141gN10141gP10141gR10141gT",
    "10141gV10141h110141h310141h510141h710141h910141hB10141hD10141hF10141hH10141hJ10141hL10141hN1",
    "0141dV141hQ10141hS10141hU10141ZJ10141oJ141i310141i510141oK141i810141oM141oN141iC20141kT141oP",
    "141oR141iI10141p0141p310141p9141p8141iP30141pF141pI10141pL141j110141j310141j510141q0141j8101",
    "41q320141jD10141q8141jG10141qA141qB141jK10141jM10141qI141jP30141jT70342Z4hU342ZCZA342ZEZA141",
    "kE10141kG10141kI10141kK10141kM10141kO10141kQ10141kS20141kV10141l110141l310141l510141l710141l",
    "910141lB10141lD10141lF20342Z4ZQ141lL10141iL141jV141lP10141lR10141lT10141lV10141m110141m31014",
    "1m510141m710141m910141mB10141mD10141mF10141mH10141mJ10141mL10141mN10141mP10141mR10141mT10141",
    "mV10141iU10141n310141n510141n710141n910141nB10141nD10141nF10141nH10141nJ70141hZ5141nS10141iQ",
    "141hZ620141o210141i0141q9141qC141o710141o910141oB10141oD10141oFZ10141Z8141p6141ZA141ZI141pP1",
    "41pR141q1141ZN141ZPV0142X0u6142X0u7142X0uA142X0v8142X0u3142X0uB20141p3141ZC141ZJ141ZO141qLYR",
    "0141u0141u110141uJ142u8u1141zP9012X00141xH10141xJ10141rP10141xN30142X0zP30141XR141>J40142X0u",
    "1143X0u8u1141zC141bN141zD141zE141zF10141<C10141<D141<E10141zH141zI141zJ141zK141zL141zM141zN1",
    "41zO141zP141zQ141zR141zS141zT141zU141zV141<0141<110141<3141<4141<5141<6141<7141<8141<9141<A1",
    "41<BM011C0141<N141zI141zO141<5141<D141<B141<6141<010141<P10141<R10141<T10141<V10141>110141>3",
    "10141>510141>710141>910141>B10141>D10141>F10141zQ141<1141<310141zO141zL10141>O10141<3141>R20",
    "141xR141xS141xT141XYG141XYH141XYI141XYJ141XYK141XYL141XYM141XYN141XYO141XYP141XYQ141XYR141XY",
    "S141XYT141XYU141XYV141XXG141XXH141XXI141XXJ141XXK141XXL141XXM141XXN141XXO141XXP141XXQ141XXR1",
    "41XXS141XXT141XXU141XXV141XY0141XY1141XY2141XY3141XY4141XY5141XY6141XY7141XY8141XY9141XYA141",
    "XYB141XYC141XYD141XYE141XYFXG0141XZ110141XZ310141XZ510141XZ710141XZ910141XZB10141XZD10141XZF",
    "10141XZH10141XZJ10141XZL10141XZN10141XZP10141XZR10141XZT10141XZV10141Xa190141XaB10141XaD1014",
    "1XaF10141XaH10141XaJ10141XaL10141XaN10141XaP10141XaR10141XaT10141XaV10141Xb110141Xb310141Xb5",
    "10141Xb710141Xb910141XbB10141XbD10141XbF10141XbH10141XbJ10141XbL10141XbN10141XbP10141XbR1014",
    "1XbT10141XbV10141XcF141Xc210141Xc410141Xc610141Xc810141XcA10141XcC10141XcE20141XcH10141XcJ10",
    "141XcL10141XcN10141XcP10141XcR10141XcT10141XcV10141Xd110141Xd310141Xd510141Xd710141Xd910141X",
    "dB10141XdD10141XdF10141XdH10141XdJ10141XdL10141XdN10141XdP10141XdR10141XdT10141XdV10141Xe110",
    "141Xe310141Xe510141Xe710141Xe910141XeB10141XeD10141XeF10141XeH10141XeJ10141XeL10141XeN10141X",
    "eP10141XeR10141XeT10141XeV10141Xf110141Xf310141Xf510141Xf710141Xf910141XfB10141XfD10141XfF20",
    "141Xh1141Xh2141Xh3141Xh4141Xh5141Xh6141Xh7141Xh8141Xh9141XhA141XhB141XhC141XhD141XhE141XhF14",
    "1XhG141XhH141XhI141XhJ141XhK141XhL141XhM141XhN141XhO141XhP141XhQ141XhR141XhS141XhT141XhU141X",
    "hV141Xi0141Xi1141Xi2141Xi3141Xi4141Xi5141Xi6XG0142Xh5Xi230141XhBZK063M013YO0142Xn7XpK142Xo8X",
    "pK142Xs7XpK142XoAXpKZ4013XH013i0023YG013ZL0142YeLYfS142YeMYfS142YeNYfS142YeSYfS142Yf1YfS142Y",
    "f2YfS142YfBYfS142YfFYfSZS0142Yj1YjS142Yj2YjS10142YjFYjSYJ0142YnIYnS20142YnOYnSX20142YmMYnS14",
    "2YmNYnS142YmSYnS20142YnBYnSdT0142Yv1YvS142Yv2YvSsL0142ZoDZnIZV0142ZsDZrIX80142ZrBZqP142ZrBZr",
    "1XE0141ZuBXM0142Zw2ZzN90142ZwCZzN40142ZwHZzN40142ZwMZzN40142ZwRZzNC0142Zw0ZzL90142ZxHZxI1014",
    "2ZxHZxK142ZzIZy0143ZzIZxHZy0142ZzJZy0143ZzJZxHZy070142ZxHZy0H0142ZyIZzN90142ZySZzN40142Zz1Zz",
    "N40142Zz6ZzN40142ZzBZzNC0142ZyGZzLd60141he0141he1141he2141he3141he4141he5141he6141he7141he81",
    "41he9141heA141heB141heC141heD141heE141heF141heG141heH141heI141heJ141heK141heL141heM141heN141",
    "heO141heP141heQ141heR141heS141heT141heU141heV141hf0141hf1141hf2141hf3141hf4141hf510141hf7501",
    "41hfDXE0141acSZ2022qN0141a>G141a>H141a>I141a>J141a>K141a>Lq2013fJ022YL052XZG0141XXI141XXK141",
    "XXU141XY1241XY2141XYA141XZ3141XfoB141daA60141acG141acH141acI141acJ141acK141acL141acM141acN14",
    "1acO141acP141acQ141acR141acS141acT141acU141acV141ad0141ad1141ad2141ad3141ad4141ad5141ad6141a",
    "d7141ad8141ad9141adA141adB141adC141adD141adE141adF141adG141adH141adI141adJ141adK141adL141adM",
    "141adN141adO141adP141adQ20141adT141adU141adVZC0141Z1141d6141Z210141Z4141Z5141kT141Z7141Z8141",
    "Z9141ZA141ZB141ZC141ZD141ZE10141ZF141n3141ZG141ZI141ZK141ZL141ZN141Z1141oG141oH141de2141Z214",
    "1Z4141Z5141oP141oR141oS141Z710141ZB141ZD141gB141ZF141oK141deM141deN141ZG141ZK141ZL141deT141p",
    "F141ZM141df5141zI141zJ141zK141<6141<7141Z9141ZI141ZL141ZM141zI141zJ141<1141<6141<7D0141XXTX2",
    "0141oI141Z3141oL141dG141oS141Z6141oV141p1141p5141p8141p9141pA141dhR141qT141pD141di5141qV141p",
    "H141pG141pI141pJ141pK141pL141pO141q2141q3141jB141q9141qA141deS141qB141qC141ZQ141qG141qH141qI",
    "141zOY00141dm110141dm310141dm510141dm710141dm910141dmB10141dmD10141dmF10141dmH10141dmJ10141d",
    "mL10141dmN10141dmP10141dmR10141dmT10141dmV10141dn110141dn310141dn510141dn710141dn910141dnB10",
    "141dnD10141dnF10141dnH10141dnJ10141dnL10141dnN10141dnP10141dnR10141dnT10141dnV10141do110141d",
    "o310141do510141do710141do910141doB10141doD10141doF10141doH10141doJ10141doL10141doN10141doP10",
    "141doR10141doT10141doV10141dp110141dp310141dp510141dp710141dp910141dpB10141dpD10141dpF10141d",
    "pH10141dpJ10141dpL10141dpN10141dpP10141dpR10141dpT10141dpV10141dq110141dq310141dq510141dq710",
    "141dq910141dqB10141dqD10141dqF10141dqH10141dqJ10141dqL50142Z1rU141dp120141cV10141dr110141dr3",
    "10141dr510141dr710141dr910141drB10141drD10141drF10141drH10141drJ10141drL10141drN10141drP1014",
    "1drR10141drT10141drV10141ds110141ds310141ds510141ds710141ds910141dsB10141dsD10141dsF10141dsH",
    "10141dsJ10141dsL10141dsN10141dsP10141dsR10141dsT10141dsV10141dt110141dt310141dt510141dt71014",
    "1dt910141dtB10141dtD10141dtF10141dtH10141dtJ10141dtL10141dtN10141dtP10141dtR10141dtT10141dtV",
    "90141du0141du1141du2141du3141du4141du5141du6141du780141duG141duH141duI141duJ141duK141duLA014",
    "1dv0141dv1141dv2141dv3141dv4141dv5141dv6141dv780141dvG141dvH141dvI141dvJ141dvK141dvL141dvM14",
    "1dvN80141dw0141dw1141dw2141dw3141dw4141dw5B0141dwH10141dwJ10141dwL10141dwN80141dx0141dx1141d",
    "x2141dx3141dx4141dx5141dx6141dx710141zC10141zD10141zE10141zF10141<C10141<D10141<E20142du0zP1",
    "42du1zP142du2zP142du3zP142du4zP142du5zP142du6zP142du7zP142du0zP142du1zP142du2zP142du3zP142du",
    "4zP142du5zP142du6zP142du7zP142dv0zP142dv1zP142dv2zP142dv3zP142dv4zP142dv5zP142dv6zP142dv7zP1",
    "42dv0zP142dv1zP142dv2zP142dv3zP142dv4zP142dv5zP142dv6zP142dv7zP142dx0zP142dx1zP142dx2zP142dx",
    "3zP142dx4zP142dx5zP142dx6zP142dx7zP142dx0zP142dx1zP142dx2zP142dx3zP142dx4zP142dx5zP142dx6zP1",
    "42dx7zP20142dxGzP142zHzP142zCzP20142dzMzP141dzG141dzH141dxG141zC142zHzP142X0uJ141zP142X0uJ14",
    "2X0w2143X0u8w2142dxKzP142zNzP142zEzP20142d<6zP141dxI141zD141dxK141zE142zNzP143X0uJu0143X0uJu",
    "1143X0uJw230141yG40141d<G141d<H141dxM141zF10143X0uKu0143X0uKu1143X0uKw230141zG40141d>0141d>1",
    "141dxQ141<D141d>5143X0u8u0143X0u8u1141Z020142dxSzP142<9zP142<EzP20142d>MzP141dxO141<C141dxS1",
    "41<E142<9zP142X0u1142X0uK10B41X012212310141eWG50142X0vJC0331073141X030142eXIeXI143eXIeXIeXI1",
    "0142eXLeXL143eXLeXLeXL40142X1X110142X0u580142XVXV142XVX1142X1XVD0144eXIeXIeXIeXI70141X052104",
    "362141XG141Z920141XK141XL141XM141XN141XO141XP141XB141emI141XT141X8141X9141ZE141XG141XH141XI1",
    "41XJ141XK141XL141XM141XN141XO141XP141XB141emI141XT141X8141X910141Z1141Z5141ZF141ZO141oP141Z8",
    "141ZB141ZC141ZD141ZE141ZG141ZJ141ZKB0142ZIZJYN0143Z1XFZ3143Z1XFZJ141Z3142bGZ310143Z3XFZF143Z",
    "3XFZL141oR10142bGZ6141Z7441Z8141f7241Z9241ZC10141ZE142ZEZF20141ZG141ZH341ZI20142ZJZD143ZKZ5Z",
    "C142ZKZD10141ZQ10141<910141ZQ10141ZB141d5141Z2141Z310241Z5141Z6141egE141ZD141ZF141XkG141XkH1",
    "41XkI141XkJ141Z910143Z6Z1ZO141<0241zJ141<0141emH40241Z4141Z5141Z9141ZA60143XHeY4XN143XHeY4XP",
    "144XHeY4XHXG143XHeY4XJ143XIeY4XJ143XHeY4XL143XIeY4XL143XJeY4XL143XKeY4XL143XHeY4XM143XLeY4XM",
    "143XHeY4XO143XJeY4XO143XLeY4XO143XNeY4XO142XHeY4141Z9142Z9Z9143Z9Z9Z9142Z9ZM141ZM142ZMZ9143Z",
    "MZ9Z9144ZMZ9Z9Z9142Z9ZO141ZO142ZOZ9143ZOZ9Z9141ZC141Z3141Z4141ZD141Z9142Z9Z9143Z9Z9Z9142Z9ZM",
    "141ZM142ZMZ9143ZMZ9Z9144ZMZ9Z9Z9142Z9ZO141ZO142ZOZ9143ZOZ9Z9141ZC141Z3141Z4141ZD30141ei45014",
    "3XGeY4XJb20142enBenB143enBenBenB10142enEenE143enEenEenEdO0141iW8141iW9fL0141XH141XI141XJ141X",
    "K141XL141XM141XN141XO141XP142XHXG142XHXH142XHXI142XHXJ142XHXK142XHXL142XHXM142XHXN142XHXO142",
    "XHXP142XIXG143X8XHX9143X8XIX9143X8XJX9143X8XKX9143X8XLX9143X8XMX9143X8XNX9143X8XOX9143X8XPX9",
    "144X8XHXGX9144X8XHXHX9144X8XHXIX9144X8XHXJX9144X8XHXKX9144X8XHXLX9144X8XHXMX9144X8XHXNX9144X",
    "8XHXOX9144X8XHXPX9144X8XIXGX9K3143X8Z1X9143X8Z2X9143X8Z3X9143X8Z4X9143X8Z5X9143X8Z6X9143X8Z7",
    "X9143X8Z8X9143X8Z9X9143X8ZAX9143X8ZBX9143X8ZCX9143X8ZDX9143X8ZEX9143X8ZFX9143X8ZGX9143X8ZHX9",
    "143X8ZIX9143X8ZJX9143X8ZKX9143X8ZLX9143X8ZMX9143X8ZNX9143X8ZOX9143X8ZPX9143X8ZQX9141Z1141Z21",
    "41Z3141Z4141Z5141Z6141Z7141Z8141Z9141ZA141ZB141ZC141ZD141ZE141ZF141ZG141ZH141ZI141ZJ141ZK141",
    "ZL141ZM141ZN141ZO141ZP141ZQ141Z1141Z2141Z3141Z4141Z5141Z6141Z7141Z8141Z9141ZA141ZB141ZC141ZD",
    "141ZE141ZF141ZG141ZH141ZI141ZJ141ZK141ZL141ZM141ZN141ZO141ZP141ZQ141XGXf10144enBenBenBenBZ70",
    "143XQXQXT142XTXT143XTXTXTZ50142gsTvOf30141hXG141hXH141hXI141hXJ141hXK141hXL141hXM141hXN141hX",
    "O141hXP141hXQ141hXR141hXS141hXT141hXU141hXV141hY0141hY1141hY2141hY3141hY4141hY5141hY6141hY71",
    "41hY8141hY9141hYA141hYB141hYC141hYD141hYE141hYF141hYG141hYH141hYI141hYJ141hYK141hYL141hYM141",
    "hYN141hYO141hYP141hYQ141hYR141hYS141hYT141hYU141hYVXG0141hZ110141pB141dhT141pT20141hZ810141h",
    "ZA10141hZC10141oH141pH141oG141oI10141hZJ20141hZM60141ZA141ZM141nV141o0141ha110141ha310141ha5",
    "10141ha710141ha910141haB10141haD10141haF10141haH10141haJ10141haL10141haN10141haP10141haR1014",
    "1haT10141haV10141hb110141hb310141hb510141hb710141hb910141hbB10141hbD10141hbF10141hbH10141hbJ",
    "10141hbL10141hbN10141hbP10141hbR10141hbT10141hbV10141hc110141hc310141hc510141hc710141hc91014",
    "1hcB10141hcD10141hcF10141hcH10141hcJ10141hcL10141hcN10141hcP10141hcR10141hcT10141hcV10141hd1",
    "10141hd380141hdC10141hdE40141hdJZS0141hh1fF0141w<DYJ0141XdyVC0141pm0141pn8141pnM141pnV141poP",
    "141pq5141pqC141pr0141prQ141qfV141qh5141qhB141qi2141qiM141qjB141ql0141qlL141qm0141qqR141qtP14",
    "1quL141quQ141qvO141qw1141qwS141qx9141qy2141qzM141q<8141q>3141rsN141ruV141sdB141se2141seA141s",
    "eL141sf7141shJ141swG141sy0141s>O141tWF141tX2141tXO141tZE141tZH141tkR141tl5141tlH141tlU141tpI",
    "141tpQ141tpV141ttK141ttU141tuB141tuJ141twG141tx1141txJ141t<3141um8141unM141uoB141vfF141vfK14",
    "1vi7141viN141vj4141vjP141vl0141vl5141vtG141vu8141vv8141wv0141wx2141wxP141wzJ141w<B141w<K141w",
    "<R141xWF141xWK141xXK141yZB141ynA141ynM141ynR141ynV141yo7141yoP141yoR141yrC141yy4141yy9141zcS",
    "141zd6141zeO141zeV141zf8141zfG141ziB141ziI141zpM141zpT141zrE141zrV141ztE141z<R141z>2141z>J14",
    "1<fQ141<jO141<jU141<pK141<sB141<tP141>ZJ141>dO141>vM141>wH141>yA141>zT141XWW1141XWWC141XWWI1",
    "41XWXJ141XWZV141XWa9141XWl3141XWlA141XWlJ141XWlS141XWmC141XWmR141XWmV141XWpE141XWpI141XWpO14",
    "1XXoD141XXpB141XYY0141XYYC141XYZ3141XYhU141XYiB141XYkI141XYm0141XZXN141XZY6141XZYL141XZZO141",
    "XZaT141XZh4141XZhG141XZjJ141XZrB141XZsA141XZyR141XZzG141XZzL141XaaH141Xag9141Xak6141XakC141X",
    "akH141XbhN141Xbi0141XbmS141XbrM141XbrP141Xbt8141XbwH141XbwU141Xbx2141Xbx9141Xb<B141Xb>D141Xb",
    ">J141XcW1141Xcb8141XccR141XccV141XciM141XciP141XcjC141Xcr8141XcsO141XcsV141Xcv5141XcvF141Xcv",
    "I141XcvS141XcwQ141Xdd5141XdpL141XdpV141Xdr5141XdrR141Xds3141XdsD141XdsH141XdtP141XdtT141XduE",
    "141XduJ141Xdv0141XdvR141XdwA141XdwI141XdyD141XdyS141Xdz0Q0G3141X010141XEXJ0141iWI10141qw1141",
    "qw4141qw5Z00142X0iaP142X0iaQ20142ia8iaAYV0142ibJic8XH0141ae0141ae1141ajA141ae2141ajC141ajD14",
    "1ae3141ae4141ae5141ajG141ajH141ajI141ajJ141ajK141ajL141aeQ141ae6141ae7141ae8141af1141ae9141a",
    "eA141aeB141aeC141aeD141aeE141aeF141aeG141aeH141aeI141ah1141ah2141ah3141ah4141ah5141ah6141ah7",
    "141ah8141ah9141ahA141ahB141ahC141ahD141ahE141ahF141ahG141ahH141ahI141ahJ141ahK141ahL12141aeK",
    "141aeL141ak7141ak8141akC141akE141akJ141akN141akP141aeS141akT141akV141aeT141aeU141af0141af214",
    "1af3141af7141af9141afB141afC141afD141afE141afF141afI141afM141ag0141ag7141agC141alH141alI141a",
    "gN141agO141agP141ai4141ai5141ai8141aiH141aiI141aiK141aiU141aj130141pm0141pqC141pm9141rsR141p",
    "mA141pnD141pmB141zfI141poP141pmP141pm1141sf9141rvG141prQYF013G0143X8ae0X9143X8ae2X9143X8ae3X",
    "9143X8ae5X9143X8ae6X9143X8ae7X9143X8ae9X9143X8aeBX9143X8aeCX9143X8aeEX9143X8aeFX9143X8aeGX91",
    "43X8aeHX9143X8aeIX9143X8XhW0X9143X8XiaOX9143X8Xit4X9143X8XjxSX9143X8Xkk8X9143X8XlWKX9143X8Xm",
    "bCX9143X8Xng4X9143X8XnyGX9143X8XpX8X9143X8XppKX9143X8Xqc0X9143X8XquCX9143X8XrgOX9143X8XodSX9",
    "144X8Xnn4XoW4X9144X8Xnn4Xrs4X910143X8pm0X9143X8pqCX9143X8pm9X9143X8rsRX9143X8pqKX9143X8qhDX9",
    "143X8pm3X9143X8qhBX9143X8poTX9143X8qw1X9143X8vu8X9143X8yZBX9143X8xXKX9143X8vv8X9143X8XakHX91",
    "43X8ruVX9143X8vl5X9143X8wXAX9143X8vu9X9143X8<fUX9143X8rWDX9143X8ypPX9143X8XZb1X9143X8<gTX914",
    "3X8qrKX9143X8pt3X9143X8rZSX9143X8sx6X9143X8zt3X9143X8pu1X9143X8XZc7X9143X8qwKX9143X8<hDX9143",
    "X8puHX9143X8XWlAX9143X8XWlJX9141rgF141tpS141vi7141<yF80143ZGZKZ5142XIXH142XIXI142XIXJ142XIXK",
    "142XIXL142XIXM142XIXN142XIXO142XIXP142XJXG142XJXH142XJXI142XJXJ142XJXK142XJXL141ae0141ae2141",
    "ae3141ae5141ae6141ae7141ae9141aeB141aeC141aeE141aeF141aeG141aeH141aeI141XhW0141XiaO141Xit414",
    "1XjxS141Xkk8141XlWK141XmbC141Xng4141XnyG141XpX8141XppK141Xqc0141XquC141XrgO142XpXOXhd0142Xod",
    "SXnwO141XnrG10141pm0141pqC141pm9141rsR141pqK141qhD141pm3141qhB141poT141qw1141vu8141yZB141xXK",
    "141vv8141XakH141ruV141vl5141wXA141vu9141<fU141rWD141ypP141XZb1141<gT141qrK141<kO141zfN141shJ",
    "141XaZ9141qfA141qxG141xd8141XcW5141puH141qiP141wx3141pmA141pnD141pmB141tl6141q>J141qvR141syN",
    "141sx6141zt3141pu1141XZc7141qwK141seS142XJXM142XJXN142XJXO142XJXP142XKXG142XKXH142XKXI142XKX",
    "J142XKXK142XKXL142XKXM142XKXN142XKXO142XKXP142XLXG142XHvu8142XIvu8142XJvu8142XKvu8142XLvu814",
    "2XMvu8142XNvu8142XOvu8142XPvu8143XHXGvu8143XHXHvu8143XHXIvu8142Z8Z7143Z5ZIZ7142Z5ZM143ZCZKZ4",
    "141ib2141ib4141ib6141ib8141ibA141ibB141ibD141ibF141ibH141ibJ141ibL141ibN141ibP141ibR141ibT14",
    "1ibV141ic1141ic4141ic6141ic8141icA141icB141icC141icD141icE141icF141icI141icL141icO141icR141i",
    "cU141icV141id0141id1141id2141id4141id6141id8141id9141idA141idB141idC141idD141idF141idG141idH",
    "141idI142pt4raC144ib2icHidSic8144ib2idBicLib1144ib2idJicQib2143ib2idSidB144ib4icBidJibG143ib",
    "4idJic1143ib6ib9idJ145ib8ibPibFidSic9144ib8idSibBidS143ibAidJibP143ibAidSid0143ibBib4idA144i",
    "bBid9ic3ic8144ibBidDidAidS143ibCidDidJ143ibCidJicU142ibEibC143ibEicBidS144ibDid5idAidS144ibE",
    "idBic0idS142ibDidD145ibDidDibGid9id0146ibDidDid1idSic8idB145ibDidDidFic3ic8143ibGid9id0145ib",
    "Gid9id0ic8idJ145ibFidBibSib4idD144ibFidDidSicD143ibHidSibP143ibJidBicA143ibJidSicT144ibLib4i",
    "bFidB145ibLidJic1idSid0144ibNidAidJibG143ibRidJic1143ibRidJic8143ic0idSibP142ic7ibN142ic9idB",
    "142ic8idJ142icAicE143icEic3ic8143icFib4ic4145icHidSibRidJic8143icHidSic4144icGidSidCidB145ic",
    "Kib2ibPic8idB143icKibFidB142icKibJ142icJidB145icLib1id9ic3ic9144icLib3idSic8145icMic3ibNib7i",
    "dB143icLid9idJ145icOibFibVidSidB142icQibT143icQicBicI143icOidBic4143icQidJibP143icQidSibO143",
    "icPidSibV144icTib4idJic8143icSidBic8142icRidJ143icTidJic9143icRidSidB143icRidSidJ144icUib4ib",
    "FidD143icUib4idB143icUic3icF143icUidBibF145icUidJibNid7idJ144icVibFidDidJ142icVidA145icVidAi",
    "cGidSidB142id1ibC144id1ibCic8idJ144id1idSic8idB143id4idSic9143id4idSidB143id6ib2idJ144idAic3",
    "ic8idB142idAid9143idBicKidS144idBidSicMidB142idCid0145idCidJic8ibIidJ143idFic3ic8142XGybP142",
    "XHybP142XIybP142XJybP142XKybP142XLybP142XMybP142XNybP142XOybP142XPybP143XHXGybP143XHXHybP143",
    "XHXIybP143XHXJybP143XHXKybP143XHXLybP143XHXMybP143XHXNybP143XHXOybP143XHXPybP143XIXGybP143XI",
    "XHybP143XIXIybP143XIXJybP143XIXKybP143Z8ZGZ1142Z4Z1142Z1ZL143Z2Z1ZI142ZFZM142ZGZ3142Z4ZD143Z",
    "4ZDXI143Z4ZDXJ142Z9ZL142tpJumG142vnDraC142sf7wx3142vmExbR144wXAtuFpuQ<fU142ZGZ1142ZEZ1142zSZ",
    "1142ZDZ1142ZBZ1142ZBZ2142ZDZ2142Z7Z2143Z3Z1ZC144ZBZ3Z1ZC142ZGZ6142ZEZ6142zSZ6142zSZ7142ZDZ71",
    "42ZBZ7142Z8ZQ143ZBZ8ZQ143ZDZ8ZQ143Z7Z8ZQ143ZKZ8ZQ142zSZC142ZDZC142Z4ZC142ZBZC142Z6ZD142ZEZD1",
    "42zSZD142ZDZD142Z3ZD142ZBZD143ZDZDXI143Z3ZDXI142ZDXI143ZBZDXI143ZDZDXJ143Z3ZDXJ142ZDXJ143ZBZ",
    "DXJ143ZDemLZJ144ZDemLZJXI142ZGZ1143ZBZGZ1143ZDZGZ1143Z7ZGZ1143ZIZ1Z4145ZIZ1Z4emLZJ146ZIZ1Z4e",
    "mLZJXI142ZGZJ142ZEZJ142zSZJ142ZDZJ142ZGZM142ZEZM142zSZM142ZDZM142ZBZM142ZDZM142ZGZN142ZEZN14",
    "2zSZN142ZDZN142ZBZN142ZDZN142ZB<9142ZD<913142Z2ZH142Z3Z3142Z3Z4144Z3emLZBZ713142Z4Z2142Z7ZP1",
    "42Z8Z1142Z8ZG142Z9ZE142ZBZB142ZBZD142ZBZK142ZCZD142ZCZE143ZCZFZ7142ZCZO142ZDZ2143ZDZ9ZC143ZD",
    "ZFZC142ZGZ813143ZGZGZD142ZGZI142ZJZI142ZJZM142ZNZ2143ZMemLZD143Z1emLZD142XHvl5142XIvl5142XJv",
    "l5142XKvl5142XLvl5142XMvl5142XNvl5142XOvl5142XPvl5143XHXGvl5143XHXHvl5143XHXIvl5143XHXJvl514",
    "3XHXKvl5143XHXLvl5143XHXMvl5143XHXNvl5143XHXOvl5143XHXPvl5143XIXGvl5143XIXHvl5143XIXIvl5143X",
    "IXJvl5143XIXKvl5143XIXLvl5143XIXMvl5143XIXNvl5143XIXOvl5143XIXPvl5143XJXGvl5143XJXHvl5143Z7Z",
    "1ZCyo00141Xfo110141Xfo310141Xfo510141Xfo710141Xfo910141XfoB10141XfoD10141XfoF10141XfoH10141X",
    "foJ10141XfoL10141XfoN10141XfoP10141XfoR10141XfoT10141XfoV10141Xfp110141Xfp310141Xfp510141Xfp",
    "710141Xfp910141XfpB10141XfpDJ0141Xfq110141Xfq310141Xfq510141Xfq710141Xfq910141XfqB10141XfqD1",
    "0141XfqF10141XfqH10141XfqJ10141XfqL10141XfqN10141XfqP10141XfqR10141XYA141XYCa40141Xfv310141X",
    "fv510141Xfv710141Xfv910141XfvB10141XfvD10141XfvF30141XfvJ10141XfvL10141XfvN10141XfvP10141Xfv",
    "R10141XfvT10141XfvV10141Xfw110141Xfw310141Xfw510141Xfw710141Xfw910141XfwB10141XfwD10141XfwF1",
    "0141XfwH10141XfwJ10141XfwL10141XfwN10141XfwP10141XfwR10141XfwT10141XfwV10141Xfx110141Xfx3101",
    "41Xfx510141Xfx710141Xfx910141XfxB10141XfxD10141XfxF10141XfxF80141XfxQ10141XfxS10141dhP141Xfx",
    "V10141Xfy110141Xfy310141Xfy510141Xfy740141XfyC10141p520141XfyH10141XfyJ30141XfyN10141XfyP101",
    "41XfyR10141XfyT10141XfyV10141Xfz110141Xfz310141Xfz510141Xfz710141Xfz910141p6141oS141p1141pC1",
    "41pA10141qU141q7141qT141XgwJ141XfzL10141XfzN10141XfzP10141XfzR10141XfzT10141XfzV10141Xf<1101",
    "41Xf<310141XfyK141q2141diE141Xf<810141Xf<A10141p4141Xf<D10141Xf<F10141Xf<H10141Xf<J10141Xf<L",
    "10141Xf<N10141Xf<P10141Xf<R10141iRK0141ZJ141Z3141Z6141ZH141Xf>M20141f7141gJx20141Xfv7141XgvN",
    "141pB141XgwI90141qD60141az0141az1141az2141az3141az4141az5141az6141az7141az8141az9141azA141az",
    "B141azC141azD141azE141azF141azG141azH141azI141azJ141azK141azL141azM141azN141azO141azP141azQ1",
    "41azR141azS141azT141azU141azV141a<0141a<1141a<2141a<3141a<4141a<5141a<6141a<7141a<8141a<9141",
    "a<A141a<B141a<C141a<D141a<E141a<F141a<G141a<H141a<I141a<J141a<K141a<L141a<M141a<N141a<O141a<",
    "P141a<Q141a<R141a<S141a<T141a<U141a<V141a>0141a>1141a>2141a>3141a>4141a>5141a>6141a>7141a>81",
    "41a>9141a>A141a>B141a>C141a>D141a>E141a>FhY00ee03141XZY8141vtK141XZsA141XZc8141xsH141pnI141q",
    ">5241XdyS141sgH141XakH141ri7141sg8141ulM141zp9141>y5141XXnV141XXzQ141XYdO141XaaF141wm2141xeR",
    "141ycP141y<U141XXXT141XahA141XclH141pq2141qxL141wu4141ymR141XXnD141XdmU141tgG141x>B141XXkD14",
    "1XYh4141us9141XWkO141XYWV141tsA141vuN141xhA141ytS141XacE141py6141qjN141qsU141vc4141wsJ141ymG",
    "141zt7141XWW1141XXm6141XXoS141XZlF141XbvI141XcxF141XdlQ141<aC141<hV141>j0141XW<9141Xau4141Xd",
    "pV141XYsM141scV141tu4141>Z0141XWZU141yp2141<cA141XZc2141XbtN141scO141tZ2141wmJ141xkQ141xuF14",
    "1>fF141>nN141XboB141qsI141XWaB141qkS141qkC141<mS141>jU141XW>H141XbpL141XYy0141usF141wm2141XY",
    "tU141pnP141s>7141uWI141yy7141zhG141quN141<dR141pzV141tz9141pmD141xcC141vhO141>f2141q<3141sYU",
    "141zu1141XXY9141XYrA141wzQ141XZzG141xa8141utU141XWt5141uz0141zh5141prE141qh9141qk9141wa1141>",
    "d7141XWpF141XYsI141XakF141qtL141rY2141shJ141ttC141vk5141x>U141<fA141XbjD141XcpA141XdqN141Xds",
    "E141qqR141vs6141wxN141XZx2141tpK141uiG141um0141vaQ141xv3141yg9141za9141<kA141>lK141XWZF141XZ",
    "v6141XXdE141XaX3141XawA141qmN141qr3141rbT141yc8141XYc2141XYrA141ts9141t>L141uxR141wzE141>XU1",
    "41yxL141pt4141rtP141s>7141tjQ141uWS141yzI141zZ9141>yQ141XWY6141XanK141XbtM141Xbw8141XcWO141p",
    "yB141<jE141XajK141XbrO141ud1141pq6141qcQ141s>E141tXV141viP141wm2141ykE141zo2141XXdS141XaZS14",
    "1XdyD141vq8141XbnE141qq9141vxR141v>J141xg1141xqS141zW9141zgP141<ZB141>eG141XcYU141qhD141unE1",
    "41XbpO141qXB141teP141xlA141XZvA141tyB141ug4141wWN141yy7141Xbq6141qn9141rWF141tZ5141vmJ141vwE",
    "141wb8141xd5141zW6141zl2141>xP141XYcF141XYd1141XakC141Xbt2141qvV141xrQ141rWT141ykG141zaO141X",
    "XlQ141Xbr3141XdYN141XdqV141vyN141xkB141XWl8141<sB141<v0141>aI141ys0141yaP141XYwO141ps0141XWv",
    "M141qnQ141qm7141tr6141usJ141>cM141sy5141xeU141vrK141XZvR141XYYC141XboD141XYiB141tsJ141qg0141",
    "rk020141sYQ10141vpK20141qkU141yvA141zsA141<fS141<gU141<h5141<iF141XbwM141>bU141>zT10141XXmI1",
    "0141XYtO20141XaXO141XadT30141XcdF141XcdS141Xcf8141XdjK141XacU141XbrN141pzE141qd7141qgD141qs9",
    "141qt4141qwH141riT141rm6141rp8141sY0141sb8141tZ4141tZE141uaK141uh8141uiE141ulI141vgF141vl214",
    "1vqH141wa5141xhN141xmQ141xv2141yhE141ynB141zX2141<aH141<fU141<g9141<g8141<gG141<gM141<gT141<",
    "iD141<iE141<o0141<q1141<<0141>lK141>m9141>o1141>xI141XWW5141XWlD241XWpP141XXYN141XYeG141XYiM",
    "141XYu1141XYvP141XZcJ141XZe8141XZzM141XaXO141Xbt3141Xb>V141XcXR141uZL141amtE141XWmO20141pn61",
    "41qjL141qh8141py0141qg5141qi0141qs7141qtQ141riT141rgL141riP141rl2141sYQ141sbJ141sg4141sgK141",
    "sp2141sv8141tsI141tsP141tx9141tzD141ucO141ugE141ue8141uiE141uh0141ulI141unK141u<4141vWS141vY",
    "I141vgM141vpK141vuN141vuR141vwM141wxP141wzQ141xg1141xsR141xsB141xv2141yWU141yhE141zz7141ynL1",
    "41yrF141yvA141zZH141ze6141zfR141zmT141zmV141zsA141zsR141ztK141zwA141zw0141<cC141<rH141<<0141",
    ">ZR141>gR141>lK141>vU141XWW5141XWwI141XW>F141XXxP141XYg1141XYi6141XYiM141XYrV141XYtO141XYsB1",
    "41XYu1141XYtU141XYtD141XYvP141XYyA141XZe8141XZvO141XaZI141XaiP141XapM141XbpS141Xbt3141XbwM14",
    "1Xb<R141Xb>V141XcWB141XcXR141XcuI141XdyS141agYA141agY4141ai<L141kyT141mWO141mXP141aqo9141atc",
    "G141a>sJ141Xdw3141XdyEX60142Z6Z6142Z6Z9142Z6ZC143Z6Z6Z9143Z6Z6ZC242ZJZKC0142XhKXhM142XhKXh51",
    "42XhKXhB142XhUXhM142XhKXhD50142XkPXjK10142XlIXjN141Xl2141XkG141XkJ141XkK141XkR141XkS141XkT14",
    "1Xl8141XlA141XB142Xl9Xk1142Xl9Xk2143Xl9XjSXk1143Xl9XjSXk2142XkGXjN142XkGXjO142XkGXjS142XkHXj",
    "S142XkIXjS142XkJXjS142XkKXjS142XkLXjS142XkMXjS10142XkOXjS142XkPXjS142XkQXjS142XkRXjS142XkSXj",
    "S10142XkUXjS10142Xl0XjS142Xl1XjS10142Xl3XjS142Xl4XjS10142Xl6XjS142Xl7XjS142Xl8XjS142Xl9XjS14",
    "2XlAXjS142XkLXjP142XkHXjV142XkRXjV142Xl4XjV142XkGXkS241XpH441XpR441XpU441Xq0441XpQ441XpV441X",
    "pP441Xr4441Xr6441Xq4441Xq3441Xq6441Xq7241XqD241XqC241XqE241Xq8241XqO241XqH441Xr9441XrF441XrJ",
    "441XrH241XrQ441XrR241Xs0441Xs1441XrU241XsI241XsJX10441XrD241Xs7241Xs6241Xs8142Xs7XpK241XsB24",
    "1Xs5241Xs9441XsG241Xo9242Xn6Xn7242Xn6XsL242Xn6Xo8242Xn6Xs7242Xn6Xs6242Xn6Xs8342Xn6XsG342Xn6X",
    "o9441XsC142Xn6XnC142Xn6XnD142Xn6Xo5142Xn6Xo9142Xn6XoA142Xn8XnC142Xn8XnD142Xn8XnE142Xn8Xo5142",
    "Xn8Xo9142Xn8XoA142XnAXnC142XnAXnD142XnAXnE142XnAXo5142XnAXo9142XnAXoA142XnBXnC142XnBXo5142Xn",
    "BXo9142XnBXoA142XnCXnD142XnCXo5142XnDXnC142XnDXo5142XnEXnC142XnEXnD142XnEXo5142XnJXnC142XnJX",
    "nD142XnJXnE142XnJXo5142XnLXnD142XnLXo5142XnMXnC142XnMXnD142XnMXnE142XnMXo5142XnNXnD142XnNXo5",
    "142XnOXo5142XnPXnC142XnPXo5142XnQXnC142XnQXo5142Xo1XnC142Xo1XnD142Xo1XnE142Xo1Xo5142Xo1Xo914",
    "2Xo1XoA142Xo2XnD142Xo2Xo5142Xo2Xo9142Xo2XoA142Xo3Xn7142Xo3XnC142Xo3XnD142Xo3XnE142Xo3Xo4142X",
    "o3Xo5142Xo3Xo9142Xo3XoA142Xo4XnC142Xo4XnD142Xo4XnE142Xo4Xo5142Xo4Xo9142Xo4XoA142Xo5XnC142Xo5",
    "XnD142Xo5XnE142Xo5Xo5142Xo5Xo9142Xo5XoA142Xo6XnC142Xo6XnD142Xo6XnE142Xo6Xo5142Xo6Xo9142Xo6Xo",
    "A142Xo7XnC142Xo7Xo5142Xo7Xo9142Xo7XoA142XoAXnC142XoAXnD142XoAXnE142XoAXo5142XoAXo9142XoAXoA1",
    "42XnGXpG142XnHXpG142Xo9XpG143X0XoCXoH143X0XoDXoH143X0XoEXoH143X0XoFXoH143X0XoGXoH143X0XoHXpG",
    "142Xn6XnH142Xn6XnI142Xn6Xo5142Xn6Xo6142Xn6Xo9142Xn6XoA142Xn8XnH142Xn8XnI142Xn8Xo5142Xn8Xo614",
    "2Xn8Xo9142Xn8XoA142XnAXnH142XnAXnI142XnAXo5142XnAXo6142XnAXo9142XnAXoA142XnBXnH142XnBXnI142X",
    "nBXo5142XnBXo6142XnBXo9142XnBXoA142Xo1Xo9142Xo1XoA142Xo2Xo9142Xo2XoA142Xo3Xn7142Xo3Xo4142Xo3",
    "Xo5142Xo3Xo9142Xo3XoA142Xo4Xo5142Xo4Xo9142Xo4XoA142Xo5Xn7142Xo5Xo5142Xo6XnH142Xo6XnI142Xo6Xo",
    "5142Xo6Xo6142Xo6Xo9142Xo6XoA142Xo9XpG142XoAXnH142XoAXnI142XoAXo5142XoAXo6142XoAXo9142XoAXoA1",
    "42Xn6XnC142Xn6XnD142Xn6XnE142Xn6Xo5142Xn6Xo7142Xn8XnC142Xn8XnD142Xn8XnE142Xn8Xo5142Xn8Xo7142",
    "XnAXnC142XnAXnD142XnAXnE142XnAXo5142XnAXo7142XnBXo5142XnCXnD142XnCXo5142XnDXnC142XnDXo5142Xn",
    "EXnC142XnEXo5142XnJXnC142XnJXnD142XnJXnE142XnJXo5142XnLXnD142XnLXnE142XnLXo5142XnMXnC142XnMX",
    "nD142XnMXnE142XnMXo5142XnNXnD142XnOXo5142XnPXnC142XnPXo5142XnQXnC142XnQXo5142Xo1XnC142Xo1XnD",
    "142Xo1XnE142Xo1Xo5142Xo2XnD142Xo2Xo5142Xo3XnC142Xo3XnD142Xo3XnE142Xo3Xo4142Xo3Xo5142Xo4XnC14",
    "2Xo4XnD142Xo4XnE142Xo4Xo5142Xo4Xo7142Xo5XnC142Xo5XnD142Xo5XnE142Xo5Xo5142Xo6XnC142Xo6XnD142X",
    "o6XnE142Xo6Xo5142Xo6Xo7142Xo7XnC142Xo7Xo5142Xo7XpG142XoAXnC142XoAXnD142XoAXnE142XoAXo5142XoA",
    "Xo7142Xn6Xo5142Xn6Xo7142Xn8Xo5142Xn8Xo7142XnAXo5142XnAXo7142XnBXo5142XnBXo7142XnJXo5142XnJXo",
    "7142XnKXo5142XnKXo7142Xo3Xo4142Xo3Xo5142Xo4Xo5142Xo6Xo5142Xo6Xo7142XoAXo5142XoAXo7143Xo0XoEX",
    "oH143Xo0XoFXoH143Xo0XoGXoH142XnNXo9142XnNXoA142XnPXo9142XnPXoA142XnQXo9142XnQXoA142XnJXo9142",
    "XnJXoA142XnKXo9142XnKXoA142XnDXo9142XnDXoA142XnCXo9142XnCXoA142XnEXo9142XnEXoA142XnLXo9142Xn",
    "LXoA142XnMXo9142XnMXoA142XnKXnC142XnKXnD142XnKXnE142XnKXo5142XnKXnH142XnJXnH142XnLXnH142XnMX",
    "nH142XnNXo9142XnNXoA142XnPXo9142XnPXoA142XnQXo9142XnQXoA142XnJXo9142XnJXoA142XnKXo9142XnKXoA",
    "142XnDXo9142XnDXoA142XnCXo9142XnCXoA142XnEXo9142XnEXoA142XnLXo9142XnLXoA142XnMXo9142XnMXoA14",
    "2XnKXnC142XnKXnD142XnKXnE142XnKXo5142XnKXnH142XnJXnH142XnLXnH142XnMXnH142XnKXnC142XnKXnD142X",
    "nKXnE142XnKXo5142XnJXo7142XnKXo7142XnNXo5142XnJXnC142XnJXnD142XnJXnE142XnKXnC142XnKXnD142XnK",
    "XnE142XnNXo5142XnOXo5242Xn7XoBI0143XnAXnCXo5243XnAXnDXnC143XnAXnDXo5143XnAXnEXo5143XnAXo5XnC",
    "143XnAXo5XnD143XnAXo5XnE243XnCXo5XnD143XnDXo5XoA143XnDXo5Xo9143XnJXnDXnC143XnJXnCXnD143XnJXn",
    "CXo9243XnJXo5XnD143XnJXo5XnC243XnJXo5Xo5243XnLXnDXnD143XnLXo5Xo5243XnKXnDXo5143XnKXnCXoA243X",
    "nKXo5XnE243XnKXo5Xo5143XnMXnDXo9243XnMXnEXo5243XnNXo5XnD143XnNXo5Xo5143XnNXo5XoA143XnPXnCXo5",
    "243XnPXo5Xo5143XnPXo5Xo9143XnQXo5Xo5143XnQXo5XoA143XnQXo5Xo9243Xo1XnEXo5143Xo2Xo5XnD143Xo2Xo",
    "5Xo5143Xo4XnDXo5143Xo4XnDXoA143Xo4XnDXo9243Xo4XnCXnC243Xo4XnEXo5243Xo4Xo5XnD143Xo5XnDXnC143X",
    "o5XnDXo5143Xo5XnDXoA143Xo5XnCXnD143Xo5XnCXo5143Xo5XnEXnC143Xo5XnEXo520143Xo5XnCXnE143Xo7Xo5X",
    "nC143Xo7Xo5Xo5143Xo6XnDXo5143Xo6XnDXo9243Xo6XnCXo5143Xo6XnCXo9143Xo6Xo5XoA143Xo6Xo5Xo9243XoA",
    "Xo5Xo5143Xn8XnEXoA143XnAXnCXoA143XnAXnCXo9143XnAXnEXoA143XnAXnEXo9143XnAXo5XoA143XnAXo5Xo914",
    "3XnCXo5XoA143XnCXnDXo9143XnCXo5Xo9143XnJXnEXo9143XnLXnDXoA143XnKXnDXoA143XnMXnDXoA143Xo4XnCX",
    "oA143Xo4Xo5XoA143XoAXnDXoA143XoAXnCXoA143XoAXo5XoA143Xo5Xo5XoA143Xo2Xo5XoA143Xo6XnDXoA143Xo2",
    "Xo5XnD143Xo4XnDXo5143XnPXo5XoA143Xo3Xo5XoA143Xo6XnCXnD143Xo5XnEXoA143Xo4XnCXo5143Xo3Xo5Xo514",
    "3Xo4XnCXo5143Xo6XnCXnD143XnCXnDXoA143XnDXnCXoA143Xo5XnCXoA143Xo1Xo5XoA143Xn8XnDXoA143Xo3Xo5X",
    "o5143XnPXnCXo5143XnLXo5Xo5143XnJXnEXoA143Xo6XnCXoA80X03143XnLXo4XsI143Xo2Xo4XsI144Xn7Xo4Xo4X",
    "o7144Xn7Xo3Xn8XnH144Xo5XnDXo5XnF144XnLXo4XnPXo5144XnHXnJXo8Xo4144XnPXo4XoAXo7144Xo8XnJXo4Xo5",
    "143XnLXo4Xo914IXnLXo4Xo9X0Xn7Xo4Xo4Xo7X0XnPXo4XoAXo7X0Xo8XnJXo4Xo5148XnCXo4X0XnCXo4Xn7Xo4Xo7",
    "144XnHXsCXn7Xo430G2141XC141iW113141XQ141XR141X1141XV141iWM141iWN13M013141eWK141eWJ241YV141X8",
    "141X9141ZR141ZT141iWK141iWL141iWG141iWH141iWA141iWB141iW8141iW9141iWC141iWD141iWE141iWF20141",
    "YR141YT442X0u5341YV141XC141iW11310141XR141XQ141XV141X1141eWK141X8141X9141ZR141ZT141iWK141iWL",
    "141X3141X6141XA141XB141XD141XS141XU141XT10141YS141X4141X5141Y040142X0XoB142Xo0XoB142X0XoC101",
    "42X0XoD10142X0XoE142Xo0XoE142X0XoF142Xo0XoF142X0XoG142Xo0XoG142X0XoH142Xo0XoH142X0XoI142Xo0X",
    "oI141Xn1241Xn2241Xn3241Xn4241Xn5441Xn6241Xn7441Xn8241Xn9441XnA441XnB441XnC441XnD441XnE241XnF",
    "241XnG241XnH241XnI441XnJ441XnK441XnL441XnM441XnN441XnO441XnP441XnQ441Xo1441Xo2441Xo3441Xo444",
    "1Xo5441Xo6441Xo7241Xo8241Xo9441XoA242Xo4Xn2242Xo4Xn3242Xo4Xn5242Xo4Xn7201210141X1141X2141X31",
    "41X4141X5141X6141X7141X8141X9141XA141XB141XC141XD141XE141XF141XG141XH141XI141XJ141XK141XL141",
    "XM141XN141XO141XP141XQ141XR141XS141XT141XU141XV141Y0141Z1141Z2141Z3141Z4141Z5141Z6141Z7141Z8",
    "141Z9141ZA141ZB141ZC141ZD141ZE141ZF141ZG141ZH141ZI141ZJ141ZK141ZL141ZM141ZN141ZO141ZP141ZQ14",
    "1YR141YS141YT141YU141YV141Z0141Z1141Z2141Z3141Z4141Z5141Z6141Z7141Z8141Z9141ZA141ZB141ZC141Z",
    "D141ZE141ZF141ZG141ZH141ZI141ZJ141ZK141ZL141ZM141ZN141ZO141ZP141ZQ141ZR141ZS141ZT141ZU141gi5",
    "141gi6141XE141iWC141iWD141iW1141idR141idI141ib1141ib3141ib5141ib7141ib9141id3141id5141id7141",
    "ic3141idS141ib2141ib4141ib6141ib8141ibA141ibB141ibD141ibF141ibH141ibJ141ibL141ibN141ibP141ib",
    "R141ibT141ibV141ic1141ic4141ic6141ic8141icA141icB141icC141icD141icE141icF141icI141icL141icO1",
    "41icR141icU141icV141id0141id1141id2141id4141id6141id8141id9141idA141idB141idC141idD141idF141",
    "idJ141iaP141iaQ12141ae0141ae1141ajA141ae2141ajC141ajD141ae3141ae4141ae5141ajG141ajH141ajI141",
    "ajJ141ajK141ajL141aeQ141ae6141ae7141ae8141af1141ae9141aeA141aeB141aeC141aeD141aeE141aeF141ae",
    "G141aeH141aeI30141ah1141ah2141ah3141ah4141ah5141ah620141ah7141ah8141ah9141ahA141ahB141ahC201",
    "41ahD141ahE141ahF141ahG141ahH141ahI20141ahJ141ahK141ahL30141b2141b3141bC142X0u4141b6141b5141",
    "eb910141fe2141eiG141eiH141eiI141eiJ141fj0141fkBA073XW00141YXX8141YXX9141YXXA141YXXB141YXXC14",
    "1YXXD141YXXE141YXXF141YXXG141YXXH141YXXI141YXXJ141YXXK141YXXL141YXXM141YXXN141YXXO141YXXP141",
    "YXXQ141YXXR141YXXS141YXXT141YXXU141YXXV141YXY0141YXY1141YXY2141YXY3141YXY4141YXY5141YXY6141Y",
    "XY7141YXY8141YXY9141YXYA141YXYB141YXYC141YXYD141YXYE141YXYFa80141YXcO141YXcP141YXcQ141YXcR14",
    "1YXcS141YXcT141YXcU141YXcV141YXd0141YXd1141YXd2141YXd3141YXd4141YXd5141YXd6141YXd7141YXd8141",
    "YXd9141YXdA141YXdB141YXdC141YXdD141YXdE141YXdF141YXdG141YXdH141YXdI141YXdJ141YXdK141YXdL141Y",
    "XdM141YXdN141YXdO141YXdP141YXdQ141YXdRaS0141YXiN141YXiO141YXiP141YXiQ141YXiR141YXiS141YXiT14",
    "1YXiU141YXiV141YXj0141YXj110141YXj3141YXj4141YXj5141YXj6141YXj7141YXj8141YXj9141YXjA141YXjB1",
    "41YXjC141YXjD141YXjE141YXjF141YXjG141YXjH10141YXjJ141YXjK141YXjL141YXjM141YXjN141YXjO141YXjP",
    "10141YXjR141YXjSlB0141sG141sH141d6141qP141oJ10141r3141Xgx6141r5141r4141oM141oN141diH141oO141",
    "oU141r9141p4141p2141p0141qR141f7141qS141p7141q4141rA141rB141pC141Ztu4141XfyE141pE141Ztu5141q",
    "E141Ztu6141dO141pM141pN141ZH141pQ141Ztu8141pT141pU141q0141r8141r6141Xgx7141r7141q8141hZH1014",
    "1qF141r1141r2141qO141k0141k1141k2141ZtuA141ZtuU141q7Xc40141YZc0141YZc1141YZc2141YZc3141YZc41",
    "41YZc5141YZc6141YZc7141YZc8141YZc9141YZcA141YZcB141YZcC141YZcD141YZcE141YZcF141YZcG141YZcH14",
    "1YZcI141YZcJ141YZcK141YZcL141YZcM141YZcN141YZcO141YZcP141YZcQ141YZcR141YZcS141YZcT141YZcU141",
    "YZcV141YZd0141YZd1141YZd2141YZd3141YZd4141YZd5141YZd6141YZd7141YZd8141YZd9141YZdA141YZdB141Y",
    "ZdC141YZdD141YZdE141YZdF141YZdG141YZdH141YZdIaT0141YZhG141YZhH141YZhI141YZhJ141YZhK141YZhL14",
    "1YZhM141YZhN141YZhO141YZhP141YZhQ141YZhR141YZhS141YZhT141YZhU141YZhV141YZi0141YZi1141YZi2141",
    "YZi3141YZi4141YZi5wN013F013X<I0141Ycc0141Ycc1141Ycc2141Ycc3141Ycc4141Ycc5141Ycc6141Ycc7141Yc",
    "c8141Ycc9141YccA141YccB141YccC141YccD141YccE141YccF141YccG141YccH141YccI141YccJ141YccK141Ycc",
    "L141YccM141YccN141YccO141YccP141YccQ141YccR141YccS141YccT141YccU141YccVcxG0G3km00141Yxp0141Y",
    "xp1141Yxp2141Yxp3141Yxp4141Yxp5141Yxp6141Yxp7141Yxp8141Yxp9141YxpA141YxpB141YxpC141YxpD141Yx",
    "pE141YxpF141YxpG141YxpH141YxpI141YxpJ141YxpK141YxpL141YxpM141YxpN141YxpO141YxpP141YxpQ141Yxp",
    "R141YxpS141YxpT141YxpU141YxpVY00141YxrR141YxrS141YxrT141YxrU141YxrV141Yxs0141Yxs1141Yxs2141Y",
    "xs3141Yxs4141Yxs5141Yxs6141Yxs7141Yxs8141Yxs9141YxsA141YxsB141YxsC141YxsD141YxsE141YxsF141Yx",
    "sG141YxsH141YxsI141YxsJmpA0142iYJiZ8YxS042aXI0141Z1141Z2141Z3141Z4141Z5141Z6141Z7141Z8141Z91",
    "41ZA141ZB141ZC141ZD141ZE141ZF141ZG141ZH141ZI141ZJ141ZK141ZL141ZM141ZN141ZO141ZP141ZQ141XG141",
    "XH141XI141XJ141XK141XL141XM141XN141XO141XPXZ40142ZqgNZqh5142ZqgOZqh5143ZqgOZqh5ZqhE143ZqgOZq",
    "h5ZqhF143ZqgOZqh5ZqhG143ZqgOZqh5ZqhH143ZqgOZqh5ZqhIE082Y00142ZqjPZqh5142ZqjQZqh5143ZqjPZqh5Z",
    "qhE143ZqjQZqh5ZqhE143ZqjPZqh5ZqhF143ZqjQZqh5ZqhFnV0141Z1141Z2141Z3141Z4141Z5141Z6141Z7141Z81",
    "41Z9141ZA141ZB141ZC141ZD141ZE141ZF141ZG141ZH141ZI141ZJ141ZK141ZL141ZM141ZN141ZO141ZP141ZQ141",
    "Z1141Z2141Z3141Z4141Z5141Z6141Z7141Z8141Z9141ZA141ZB141ZC141ZD141ZE141ZF141ZG141ZH141ZI141ZJ",
    "141ZK141ZL141ZM141ZN141ZO141ZP141ZQ141Z1141Z2141Z3141Z4141Z5141Z6141Z7141Z8141Z9141ZA141ZB14",
    "1ZC141ZD141ZE141ZF141ZG141ZH141ZI141ZJ141ZK141ZL141ZM141ZN141ZO141ZP141ZQ141Z1141Z2141Z3141Z",
    "4141Z5141Z6141Z710141Z9141ZA141ZB141ZC141ZD141ZE141ZF141ZG141ZH141ZI141ZJ141ZK141ZL141ZM141Z",
    "N141ZO141ZP141ZQ141Z1141Z2141Z3141Z4141Z5141Z6141Z7141Z8141Z9141ZA141ZB141ZC141ZD141ZE141ZF1",
    "41ZG141ZH141ZI141ZJ141ZK141ZL141ZM141ZN141ZO141ZP141ZQ141Z1141Z2141Z3141Z4141Z5141Z6141Z7141",
    "Z8141Z9141ZA141ZB141ZC141ZD141ZE141ZF141ZG141ZH141ZI141ZJ141ZK141ZL141ZM141ZN141ZO141ZP141ZQ",
    "141Z110141Z3141Z420141Z720141ZA141ZB20141ZE141ZF141ZG141ZH10141ZJ141ZK141ZL141ZM141ZN141ZO14",
    "1ZP141ZQ141Z1141Z2141Z3141Z410141Z610141Z8141Z9141ZA141ZB141ZC141ZD141ZE10141ZG141ZH141ZI141",
    "ZJ141ZK141ZL141ZM141ZN141ZO141ZP141ZQ141Z1141Z2141Z3141Z4141Z5141Z6141Z7141Z8141Z9141ZA141ZB",
    "141ZC141ZD141ZE141ZF141ZG141ZH141ZI141ZJ141ZK141ZL141ZM141ZN141ZO141ZP141ZQ141Z1141Z2141Z314",
    "1Z4141Z5141Z6141Z7141Z8141Z9141ZA141ZB141ZC141ZD141ZE141ZF141ZG141ZH141ZI141ZJ141ZK141ZL141Z",
    "M141ZN141ZO141ZP141ZQ141Z1141Z210141Z4141Z5141Z6141Z720141ZA141ZB141ZC141ZD141ZE141ZF141ZG14",
    "1ZH10141ZJ141ZK141ZL141ZM141ZN141ZO141ZP10141Z1141Z2141Z3141Z4141Z5141Z6141Z7141Z8141Z9141ZA",
    "141ZB141ZC141ZD141ZE141ZF141ZG141ZH141ZI141ZJ141ZK141ZL141ZM141ZN141ZO141ZP141ZQ141Z1141Z210",
    "141Z4141Z5141Z6141Z710141Z9141ZA141ZB141ZC141ZD10141ZF30141ZJ141ZK141ZL141ZM141ZN141ZO141ZP1",
    "0141Z1141Z2141Z3141Z4141Z5141Z6141Z7141Z8141Z9141ZA141ZB141ZC141ZD141ZE141ZF141ZG141ZH141ZI1",
    "41ZJ141ZK141ZL141ZM141ZN141ZO141ZP141ZQ141Z1141Z2141Z3141Z4141Z5141Z6141Z7141Z8141Z9141ZA141",
    "ZB141ZC141ZD141ZE141ZF141ZG141ZH141ZI141ZJ141ZK141ZL141ZM141ZN141ZO141ZP141ZQ141Z1141Z2141Z3",
    "141Z4141Z5141Z6141Z7141Z8141Z9141ZA141ZB141ZC141ZD141ZE141ZF141ZG141ZH141ZI141ZJ141ZK141ZL14",
    "1ZM141ZN141ZO141ZP141ZQ141Z1141Z2141Z3141Z4141Z5141Z6141Z7141Z8141Z9141ZA141ZB141ZC141ZD141Z",
    "E141ZF141ZG141ZH141ZI141ZJ141ZK141ZL141ZM141ZN141ZO141ZP141ZQ141Z1141Z2141Z3141Z4141Z5141Z61",
    "41Z7141Z8141Z9141ZA141ZB141ZC141ZD141ZE141ZF141ZG141ZH141ZI141ZJ141ZK141ZL141ZM141ZN141ZO141",
    "ZP141ZQ141Z1141Z2141Z3141Z4141Z5141Z6141Z7141Z8141Z9141ZA141ZB141ZC141ZD141ZE141ZF141ZG141ZH",
    "141ZI141ZJ141ZK141ZL141ZM141ZN141ZO141ZP141ZQ141Z1141Z2141Z3141Z4141Z5141Z6141Z7141Z8141Z914",
    "1ZA141ZB141ZC141ZD141ZE141ZF141ZG141ZH141ZI141ZJ141ZK141ZL141ZM141ZN141ZO141ZP141ZQ141Z1141Z",
    "2141Z3141Z4141Z5141Z6141Z7141Z8141Z9141ZA141ZB141ZC141ZD141ZE141ZF141ZG141ZH141ZI141ZJ141ZK1",
    "41ZL141ZM141ZN141ZO141ZP141ZQ141Z1141Z2141Z3141Z4141Z5141Z6141Z7141Z8141Z9141ZA141ZB141ZC141",
    "ZD141ZE141ZF141ZG141ZH141ZI141ZJ141ZK141ZL141ZM141ZN141ZO141ZP141ZQ141Z1141Z2141Z3141Z4141Z5",
    "141Z6141Z7141Z8141Z9141ZA141ZB141ZC141ZD141ZE141ZF141ZG141ZH141ZI141ZJ141ZK141ZL141ZM141ZN14",
    "1ZO141ZP141ZQ141Z1141Z2141Z3141Z4141Z5141Z6141Z7141Z8141Z9141ZA141ZB141ZC141ZD141ZE141ZF141Z",
    "G141ZH141ZI141ZJ141ZK141ZL141ZM141ZN141ZO141ZP141ZQ141Z1141Z2141Z3141Z4141Z5141Z6141Z7141Z81",
    "41Z9141ZA141ZB141ZC141ZD141ZE141ZF141ZG141ZH141ZI141ZJ141ZK141ZL141ZM141ZN141ZO141ZP141ZQ141",
    "Z1141Z2141Z3141Z4141Z5141Z6141Z7141Z8141Z9141ZA141ZB141ZC141ZD141ZE141ZF141ZG141ZH141ZI141ZJ",
    "141ZK141ZL141ZM141ZN141ZO141ZP141ZQ141fH141nN142ZJZJ10141zH141zI141zJ141zK141zL141zM141zN141",
    "zO141zP141zQ141zR141zS141zT141zU141zV141<0141<1141zO141<3141<4141<5141<6141<7141<8141<9141em",
    "7141zH141zI141zJ141zK141zL141zM141zN141zO141zP141zQ141zR141zS141zT141zU141zV141<0141<1241<31",
    "41<4141<5141<6141<7141<8141<9141em2141zL141zO141zQ141<6141<1141<0141zH141zI141zJ141zK141zL14",
    "1zM141zN141zO141zP141zQ141zR141zS141zT141zU141zV141<0141<1141zO141<3141<4141<5141<6141<7141<",
    "8141<9141em7141zH141zI141zJ141zK141zL141zM141zN141zO141zP141zQ141zR141zS141zT141zU141zV141<0",
    "141<1241<3141<4141<5141<6141<7141<8141<9141em2141zL141zO141zQ141<6141<1141<0141zH141zI141zJ1",
    "41zK141zL141zM141zN141zO141zP141zQ141zR141zS141zT141zU141zV141<0141<1141zO141<3141<4141<5141",
    "<6141<7141<8141<9141em7141zH141zI141zJ141zK141zL141zM141zN141zO141zP141zQ141zR141zS141zT141z",
    "U141zV141<0141<1241<3141<4141<5141<6141<7141<8141<9141em2141zL141zO141zQ141<6141<1141<0141zH",
    "141zI141zJ141zK141zL141zM141zN141zO141zP141zQ141zR141zS141zT141zU141zV141<0141<1141zO141<314",
    "1<4141<5141<6141<7141<8141<9141em7141zH141zI141zJ141zK141zL141zM141zN141zO141zP141zQ141zR141",
    "zS141zT141zU141zV141<0141<1241<3141<4141<5141<6141<7141<8141<9141em2141zL141zO141zQ141<6141<",
    "1141<0141zH141zI141zJ141zK141zL141zM141zN141zO141zP141zQ141zR141zS141zT141zU141zV141<0141<11",
    "41zO141<3141<4141<5141<6141<7141<8141<9141em7141zH141zI141zJ141zK141zL141zM141zN141zO141zP14",
    "1zQ141zR141zS141zT141zU141zV141<0141<1241<3141<4141<5141<6141<7141<8141<9141em2141zL141zO141",
    "zQ141<6141<1141<0241<T20141XG141XH141XI141XJ141XK141XL141XM141XN141XO141XP141XG141XH141XI141",
    "XJ141XK141XL141XM141XN141XO141XP141XG141XH141XI141XJ141XK141XL141XM141XN141XO141XP141XG141XH",
    "141XI141XJ141XK141XL141XM141XN141XO141XP141XG141XH141XI141XJ141XK141XL141XM141XN141XO141XPYX",
    "G0141XXG141XXH141XXI141XXJ141XXK141XXL141XXM141XXN141XXO141XXQ141XXR141XXS141XXU141XXV141XY0",
    "141XY1141XY2141XY3141XY4141XY5141XY6141XY7141XY8141XYB141XYD141XYE141Xfq9141XcP141XYM141XYO1",
    "41Xd9141XbF141XcF141XXG141XXH141XXI141XXJ141XXK141XXL141XXM141XXN141XXO141XXQ141XXR141XXU141",
    "XXV141XY1141XY3141XY4141XY5141XY6141XY7141XY8141XYA141XYB141XaH141XYM141XYL141XYV141XbB141Xf",
    "oH141XbHYaI0141Zwf2141Zwf3141Zwf4141Zwf5141Zwf6141Zwf7141Zwf8141Zwf9141ZwfA141ZwfB141ZwfC141",
    "ZwfD141ZwfE141ZwfF141ZwfG141ZwfH141ZwfI141ZwfJ141ZwfK141ZwfL141ZwfM141ZwfN141ZwfO141ZwfP141Z",
    "wfQ141ZwfR141ZwfS141ZwfT141ZwfU141ZwfV141Zwg0141Zwg1141Zwg2141Zwg3XcU0141Xn7141Xn8141XnC141X",
    "nF10141Xo8141XnI141XnD141XnN141XoA141Xo3141Xo4141Xo5141Xo6141XnJ141XnP141Xo1141XnL141Xo2141X",
    "nH141XnK141XnA141XnB141XnE141XnG141XnM141XnO141XnQ141XpE141XrQ141Xr1141XpF10141Xn8141XnC1014",
    "1Xo720141XnD10141XoA141Xo3141Xo4141Xo5141Xo6141XnJ141XnP141Xo1141XnL141Xo210141XnK141XnA141X",
    "nB141XnE10141XnM10141XnQ60141XnC40141XnD10141XoA10141Xo410141Xo6141XnJ141XnP10141XnL141Xo210",
    "141XnK20141XnE10141XnM10141XnQ10141XrQ10141XpF10141Xn8141XnC10141Xo720141XnD141XnN141XoA141X",
    "o310141Xo5141Xo6141XnJ141XnP141Xo1141XnL141Xo210141XnK141XnA141XnB141XnE10141XnM141XnO141XnQ",
    "141XpE10141Xr110141Xn7141Xn8141XnC141XnF141Xo7141Xo8141XnI141XnD141XnN141XoA10141Xo4141Xo514",
    "1Xo6141XnJ141XnP141Xo1141XnL141Xo2141XnH141XnK141XnA141XnB141XnE141XnG141XnM141XnO141XnQ5014",
    "1Xn8141XnC141XnF10141Xo8141XnI141XnD141XnN141XoA10141Xo4141Xo5141Xo6141XnJ141XnP141Xo1141XnL",
    "141Xo2141XnH141XnK141XnA141XnB141XnE141XnG141XnM141XnO141XnQo4013142XGXC142XHXC142XIXC142XJX",
    "C142XKXC142XLXC142XMXC142XNXC142XOXC142XPXC50143X8Z1X9143X8Z2X9143X8Z3X9143X8Z4X9143X8Z5X914",
    "3X8Z6X9143X8Z7X9143X8Z8X9143X8Z9X9143X8ZAX9143X8ZBX9143X8ZCX9143X8ZDX9143X8ZEX9143X8ZFX9143X",
    "8ZGX9143X8ZHX9143X8ZIX9143X8ZJX9143X8ZKX9143X8ZLX9143X8ZMX9143X8ZNX9143X8ZOX9143X8ZPX9143X8Z",
    "QX9143iWKZJiWL141Z3141ZI142Z3Z4142ZNZQ10141Z1141Z2141Z3141Z4141Z5141Z6141Z7141Z8141Z9141ZA14",
    "1ZB141ZC141ZD141ZE141ZF141ZG141ZH141ZI141ZJ141ZK141ZL141ZM141ZN141ZO141ZP141ZQ142Z8ZM142ZDZM",
    "142ZJZ4142ZJZJ143ZGZGZM142ZNZ3Q0142ZDZ3142ZDZ4142ZDZIX30142Z4ZAZF0142iZRiYB142ibJibJ141ibLD0",
    "141uoB141swN141q<C141ic7141pqC141seQ141XYl3141sf9141pr4141vn0141yf1141viP141qoD141tyC141qiD1",
    "41vjG141qmT141>g2141zeV141XZb9141sdG141rXP141xuK141uqL141uwL141pm0141pm9141XaYA141tl6141pnD1",
    "41q>J141uu7141XZhG141uoJ141<i1141<pQ141rW8141xq0141vu9141vu8141zfJ141qpI141rjM141XagD40143iW",
    "KvvCiWL143iWKpm9iWL143iWKpqCiWL143iWKsy9iWL143iWKybPiWL143iWKuoJiWL143iWKzsNiWL143iWKqsTiWL1",
    "43iWKvgNiWL70141tyN141q>FYiU0141XG141XH141XI141XJ141XK141XL141XM141XN141XO141XPXW4023X<W0014",
    "1pnT141pnO141po1141aWf2141px0141pzE141pzR141qW2141qZQ141qaP141qd7141qcF141jaU141aXnQ141qgD14",
    "1qgK141qh4141qhN141aXeS141jbP141qh7141qiD141aXgB141qiN141qj4141psC141qjC141qjL141bakV141qlL1",
    "41qm3141jcV141qnR141qo6141qpI141qpN141jeL141qs7141qs9141qt4141qtQ141qu5141qu6141quN141qw9141",
    "qwH141qwQ141qxJ141qxT341qxV141aYnC141yZG141q<A141q<V141aYx3141q>B141q>H141rW6141raU141rXO141",
    "rY8141rZ8141rb2141rdM141reG141rgJ141rh3241ri4141riP141rjB141rjJ141rk2141ruM141rm6141ruN141ro",
    "H141rpK141qm7141sdE141r<E141r>K141sWD141ryB141sXI141sXH141sbC141abd4141sdI141sdN141se6141seQ",
    "141sf2141sh2141abr8141abtA141slC141smR141sn7141skO141sp6141jtE141jtS141su8241svU141ack8141s<",
    "3141s<O141s>7141s>J141acuO141s>V141tW6141twJ141tX2141jy1141tZ0141tZE141tc0141taD141adl4141tg",
    "3141adl6141thE141thB141thS141tl1141tl2141kXF141tlT141tn8141tnT141tp9141kZ2141aei3141kZS141tr",
    "G141trJ141trM141tsA141beyI141ttU241aevH141XWm1241tv2141kc7141airO141aukQ141tx2141txB141kd314",
    "1tyQ141t<D141t<N141t>P141ua1141kfQ141keS141uaK141afsK141uc7141ug8141ugC141ugE141ugC141uhQ141",
    "uiE141ujI141uj4141ujF141ukU141ulI141ulM141umG141umR141uoT141urH141usK141uwG141aguC141uvT141u",
    "tS141ux8141uy3141u>4141ag>H141vX2141u<5141uz9141knE141vZ9141vZU141vaT141vZN141kpC141vgF141vh",
    "C141aiWA141vl3141vtO141vo9141kuP141vqH141ku8141kt4141qiI141qiL141vu0141vqS141XWbD141m<P141vu",
    "N141vuR141vv1141vwU141vwJ141ai<3141kw9141v>Q141vy5141wYI141wa5141ajZD141waE141wWV141weK141ky",
    "T141wg2141wj3141wlA141wr8141ajr3141wsR141lWO141wv1141akb7141wwK141lYE141wxI141wyV141wzQ141wz",
    "R141akqD141adeB141aktQ141xYE141albS141xbV141xcD141xZ7141xeM141xfU141xhN141xg1141xh9141xhO141",
    "xi5141aleU141xfK141xnF141xpE141lfJ141xsB141xs7141alsH141xlP141xxE141alwU141alyE141x<6141yXP1",
    "41yWU141yWR141liM141yYA141yZT141yZN141ybD141aXf5141yg5141amp3141yiS141amzB141yn8141ynL141yoG",
    "141anm8141yq0141yqL141anvL141aoWK141yxQ141yyB141lrC141yz5241lrO141zY7141zYS141zZH141za5141zc",
    "A141luR141zf4141apXM141zfU141apaI141zhG141aeiV141zmG141apz1141apzO141aqY4141l>S141mW8141ztK1",
    "41aqdJ141aqdI141aqeP141aqfJ141zuU241zuV141zwA141mXP141zyB141mY6141maM141arWT141<YE141<aC141<",
    "cC141md3141arn6141<gM141arqQ141ars5141<iF141<lB141mfF141<o0141<oA141<oF141ashS241asr7141<tE1",
    "41mm2141aszB141<<6141<<9141mn7141ata0141>cI141mr0141>d8141>d3141>e0141aty6141>h3141mu1141>k7",
    "141>m2141>o5141mvK141aun8141auo7141mwP141ausP141>xQ141auvU141>yL141>>Q141XWW5141avcQ141avf31",
    "41XWZ0141avj8141XWZG141aiwV141m<L141XWbI141XWe3141nWB141XWfU141srL141avz7141avzL141aiyJ141ai",
    "yS141XWm1141XWm4141XZyU141nZB141XWqH141XWqB141XWqT141qrJ141XWrH141XWrJ141XWrT141XWt6141awvS1",
    "41XWt5141XWuT141XWx3141XWzD141XWv3141XWzT141XW>7141XXYN141XWwJ141XW<A141XW<C141XW<S141axXM14",
    "1axhB141axcL141nfB141XXdH141XXdJ141XXeM141ay<A141XXh4141axvC141ngT141nh1141axzH141aycI141nhB",
    "141XXoG141XXoS141XXp7141XXp9141XXr9141XXq8141XXuE141XXt2141XXxP141XXv8141XXxB141XXy6141nkN14",
    "1XX>1141XYW1141nlP141XYZ0141XYZ3141azp7141XYcN141XYcU141nnL141XYdQ141jbR141a<bE141a<h6141nrU",
    "141ns7141XYr0141XYtD141XYyA141XZYL141a>b8141XZbB141XZc1141XZeR141XZhN141a>vF141aYW4141XZkB14",
    "1XZjS141XZlG141aYcU141XZsK141XZvO141bXkI141bXlD141XaaK141XadH141XaeH141bXvE141XaeR141XanO141",
    "XasN141XasO141XapS141Xa>P141XbWL141bY>Q141XbiB141oiL141XbjN141bZhN141ol6141Xbs3141tjI141Xbv3",
    "141bag5141bamQ141opE141opM141Xb>0141bbWA141orI141bbaM241XcWB141XcX9141bbjM141Xcd2141ovJ141Xc",
    "f9141Xcj7141Xck2141XclU141o<E141bcvG141XcuI141XdY0141XddT141pcE141pdD141Xdh7141becE141pdO141",
    "bee5141bemE141beqH141XdrR141pgM141XdtP141XdtU141Xdu5141XduF141XduM141XdvR141bfm0Xl0023X>>U0q",
    "We23dG2b>mG3"]

/-- The mapping table: ranges whose value is a status code, mapped ranges numbered from four on,
and the replacements of the mapped ranges in order. -/
structure MappingTable where
  ranges : RangeTable
  replacements : Array (List Nat)

/-- Read the records of the packed mapping table: ranges from `pos` on with their values, the
replacements met so far (reversed) and their number. -/
def mappingRecords (pos : Nat) (ranges : List (Nat × Nat × Nat)) (reps : List (List Nat))
    (count : Nat) : List Nat → List (Nat × Nat × Nat) × List (List Nat)
  | len :: 4 :: k :: rest =>
    mappingRecords (pos + len) ((pos, pos + len, 4 + count) :: ranges) (rest.take k :: reps)
      (count + 1) (rest.drop k)
  | len :: code :: rest => mappingRecords (pos + len) ((pos, pos + len, code) :: ranges) reps count rest
  | _ => (ranges.reverse, reps.reverse)
termination_by xs => xs.length
decreasing_by all_goals simp only [List.length_drop, List.length_cons]; omega

def mappingTable : MappingTable :=
  let (rs, reps) := mappingRecords 0 [] [] 0 (numbers mappingText)
  { ranges := .ofRanges rs, replacements := reps.toArray }

def status (cp : Nat) : Status :=
  match mappingTable.ranges.get cp with
  | 0 => .valid
  | 1 => .deviation
  | 2 => .ignored
  | 3 => .disallowed
  | k + 4 => .mapped (mappingTable.replacements.getD k [])

end ChatStream.Unicode
