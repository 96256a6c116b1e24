import ChatStream.Unicode.Packed

/-! # Canonical normalization

Normalization Form C, which the checks of domain names rely on: a text is decomposed
canonically, the combining marks of each run are put in canonical order (stably, by their
combining class), and the text is composed again, each mark joining the last starter before it
when nothing between them blocks it and the pair has a primary composite.

Hangul syllables decompose and compose by arithmetic; everything else comes from the packed
tables below.
-/

namespace ChatStream.Unicode

/-- Canonical decompositions: for each code point that has one (Hangul syllables aside), the gap
from the previous such code point, the length of its full decomposition and the code points of it.
-/
def decompositionText : String :=
  String.join [
    "c02Y1u012Y1u112Y1u212Y1u312Y1u812Y1uA22Y3v712Y5u012Y5u112Y5u212Y5u812Y9u012Y9u112Y9u212Y9u82",
    "2YEu312YFu012YFu112YFu212YFu312YFu832YLu012YLu112YLu212YLu812YPu132Z1u012Z1u112Z1u212Z1u312Z",
    "1u812Z1uA22Z3v712Z5u012Z5u112Z5u212Z5u812Z9u012Z9u112Z9u212Z9u822ZEu312ZFu012ZFu112ZFu212ZFu",
    "312ZFu832ZLu012ZLu112ZLu212ZLu812ZPu122ZPu812Y1u412Z1u412Y1u612Z1u612Y1v812Z1v812Y3u112Z3u11",
    "2Y3u212Z3u212Y3u712Z3u712Y3uC12Z3uC12Y4uC12Z4uC32Y5u412Z5u412Y5u612Z5u612Y5u712Z5u712Y5v812Z",
    "5v812Y5uC12Z5uC12Y7u212Z7u212Y7u612Z7u612Y7u712Z7u712Y7v712Z7v712Y8u212Z8u232Y9u312Z9u312Y9u",
    "412Z9u412Y9u612Z9u612Y9v812Z9v812Y9u742YAu212ZAu212YBv712ZBv722YCu112ZCu112YCv712ZCv712YCuC1",
    "2ZCuC52YEu112ZEu112YEv712ZEv712YEuC12ZEuC42YFu412ZFu412YFu612ZFu612YFuB12ZFuB32YIu112ZIu112Y",
    "Iv712ZIv712YIuC12ZIuC12YJu112ZJu112YJu212ZJu212YJv712ZJv712YJuC12ZJuC12YKv712ZKv712YKuC12ZKu",
    "C32YLu312ZLu312YLu412ZLu412YLu612ZLu612YLuA12ZLuA12YLuB12ZLuB12YLv812ZLv812YNu212ZNu212YPu21",
    "2ZPu212YPu812YQu112ZQu112YQu712ZQu712YQuC12ZQuCX22YFuR12ZFuRE2YLuR12ZLuRT2Y1uC12Z1uC12Y9uC12",
    "Z9uC12YFuC12ZFuC12YLuC12ZLuC13YLu8u413ZLu8u413YLu8u113ZLu8u113YLu8uC13ZLu8uC13YLu8u013ZLu8u0",
    "23Y1u8u413Z1u8u413Y1u7u413Z1u7u412c6u412d6u432Y7uC12Z7uC12YBuC12ZBuC12YFv812ZFv813YFv8u413ZF",
    "v8u412jNuC12qIuC12ZAuC42Y7u112Z7u132YEu012ZEu013Y1uAu113Z1uAu112c6u112d6u112cOu112dOu112Y1uF",
    "12Z1uF12Y1uH12Z1uH12Y5uF12Z5uF12Y5uH12Z5uH12Y9uF12Z9uF12Y9uH12Z9uH12YFuF12ZFuF12YFuH12ZFuH12",
    "YIuF12ZIuF12YIuH12ZIuH12YLuF12ZLuF12YLuH12ZLuH12YJv612ZJv612YKv612ZKv632Y8uC12Z8uC72Y1u712Z1",
    "u712Y5v712Z5v713YFu8u413ZFu8u413YFu3u413ZFu3u412YFu712ZFu713YFu7u413ZFu7u412YPu412ZPu4eD1u01",
    "1u121uJ12u8u1XG1rPA1XR72b8u112yHu111bN12yLu112yNu112yPu122yVu122z5u112z9u113zPu8u1Q2yPu812z5",
    "u812zHu112zLu112zNu112zPu113<5u8u1Q2zPu812<5u812zVu112<5u112<9u152<Iu112<Iu8XC2XWLu012XWLu82",
    "2XWJu142XW6u852XWQu112XWOu012XX3u6B2XWOu6X02XXOu6N2XXLu012XXLu822XXJu142XYMu852XXQu112XXOu01",
    "2XY3u6O2XZKuF12XZLuFYA2XWMu612XXMu6E2XWGu612XXGu612XWGu812XXGu832XWLu612XXLu632XcOu812XcPu81",
    "2XWMu812XXMu812XWNu812XXNu832XWOu412XXOu412XWOu812XXOu812XWUu812XXUu832Xd8u812Xd9u812XXDu812",
    "XYDu812XX3u412XY3u412XX3u812XY3u812XX3uB12XY3uB12XX7u812XY7u832XXBu812XYBu8f92Xn7XoJ12Xn7XoK",
    "12Xo8XoK12Xn7XoL12XoAXoKaQ2XsLXoK22Xs1XoKH2XsIXoKoM2Yf8YfS82YfGYfS32YfJYfSX42YeLYfS12YeMYfS1",
    "2YeNYfS12YeSYfS12Yf1YfS12Yf2YfS12YfBYfS12YfFYfSZC2Yk7YjU12Yk7YkNG2Yj1YjS12Yj2YjS22YjFYjSYK2Y",
    "nIYnS32YnOYnSX32YmMYnS12YmNYnS12YmSYnS32YnBYnSdA2Yw7YwM32Yw7YvU12Yw7YwNG2Yv1YvS12Yv2YvSXN2Yy",
    "IY<NXM2Y<6YzU12Y<7YzU12Y<6Y<NZS2ZY6ZYMZO2ZbVZcL72Zc6ZcL12Zc6ZcM22Zc6Zc213Zc6Zc2ZcLZV2Zg6ZfU1",
    "2Zg7ZfU12Zg6ZgNaE2ZkPZkA22ZkPZkF13ZkPZkFZkA12ZkPZkVh52Zw2ZzNA2ZwCZzN52ZwHZzN52ZwMZzN52ZwRZzN",
    "D2Zw0ZzLA2ZxHZxI22ZxHZxK12ZzIZy022ZzJZy092ZxHZy0I2ZyIZzNA2ZySZzN52Zz1ZzN52Zz6ZzN52ZzBZzND2Zy",
    "GZzLZD2aX5aXEYt02cu5cvL22cu7cvL22cu9cvL22cuBcvL22cuDcvL42cuHcvLX92cvQcvL22cvScvL32cvUcvL12cv",
    "VcvL22cw2cvLrT2Y1v512Z1v512Y2u712Z2u712Y2v312Z2v312Y2vH12Z2vH13Y3v7u113Z3v7u112Y4u712Z4u712Y",
    "4v312Z4v312Y4vH12Z4vH12Y4v712Z4v712Y4vD12Z4vD13Y5u4u013Z5u4u013Y5u4u113Z5u4u112Y5vD12Z5vD12Y",
    "5vG12Z5vG13Y5v7u613Z5v7u612Y6u712Z6u712Y7u412Z7u412Y8u712Z8u712Y8v312Z8v312Y8u812Z8u812Y8v71",
    "2Z8v712Y8vE12Z8vE12Y9vG12Z9vG13Y9u8u113Z9u8u112YBu112ZBu112YBv312ZBv312YBvH12ZBvH12YCv312ZCv",
    "313YCv3u413ZCv3u412YCvH12ZCvH12YCvD12ZCvD12YDu112ZDu112YDu712ZDu712YDv312ZDv312YEu712ZEu712Y",
    "Ev312ZEv312YEvH12ZEvH12YEvD12ZEvD13YFu3u113ZFu3u113YFu3u813ZFu3u813YFu4u013ZFu4u013YFu4u113Z",
    "Fu4u112YGu112ZGu112YGu712ZGu712YIu712ZIu712YIv312ZIv313YIv3u413ZIv3u412YIvH12ZIvH12YJu712ZJu",
    "712YJv312ZJv313YJu1u713ZJu1u713YJuCu713ZJuCu713YJv3u713ZJv3u712YKu712ZKu712YKv312ZKv312YKvH1",
    "2ZKvH12YKvD12ZKvD12YLv412ZLv412YLvG12ZLvG12YLvD12ZLvD13YLu3u113ZLu3u113YLu4u813ZLu4u812YMu31",
    "2ZMu312YMv312ZMv312YNu012ZNu012YNu112ZNu112YNu812ZNu812YNu712ZNu712YNv312ZNv312YOu712ZOu712Y",
    "Ou812ZOu812YPu712ZPu712YQu212ZQu212YQv312ZQv312YQvH12ZQvH12Z8vH12ZKu812ZNuA12ZPuA22hVu752Y1v",
    "312Z1v312Y1u912Z1u913Y1u2u113Z1u2u113Y1u2u013Z1u2u013Y1u2u913Z1u2u913Y1u2u313Z1u2u313Y1v3u21",
    "3Z1v3u213Y1u6u113Z1u6u113Y1u6u013Z1u6u013Y1u6u913Z1u6u913Y1u6u313Z1u6u313Y1v3u613Z1v3u612Y5v",
    "312Z5v312Y5u912Z5u912Y5u312Z5u313Y5u2u113Z5u2u113Y5u2u013Z5u2u013Y5u2u913Z5u2u913Y5u2u313Z5u",
    "2u313Y5v3u213Z5v3u212Y9u912Z9u912Y9v312Z9v312YFv312ZFv312YFu912ZFu913YFu2u113ZFu2u113YFu2u01",
    "3ZFu2u013YFu2u913ZFu2u913YFu2u313ZFu2u313YFv3u213ZFv3u213YFuRu113ZFuRu113YFuRu013ZFuRu013YFu",
    "Ru913ZFuRu913YFuRu313ZFuRu313YFuRv313ZFuRv312YLv312ZLv312YLu912ZLu913YLuRu113ZLuRu113YLuRu01",
    "3ZLuRu013YLuRu913ZLuRu913YLuRu313ZLuRu313YLuRv313ZLuRv312YPu012ZPu012YPv312ZPv312YPu912ZPu91",
    "2YPu312ZPu372zHuJ12zHuK13zHuJu013zHuKu013zHuJu113zHuKu113zHuJw213zHuKw212yHuJ12yHuK13yHuJu01",
    "3yHuKu013yHuJu113yHuKu113yHuJw213yHuKw212zLuJ12zLuK13zLuJu013zLuKu013zLuJu113zLuKu132yLuJ12y",
    "LuK13yLuJu013yLuKu013yLuJu113yLuKu132zNuJ12zNuK13zNuJu013zNuKu013zNuJu113zNuKu113zNuJw213zNu",
    "Kw212yNuJ12yNuK13yNuJu013yNuKu013yNuJu113yNuKu113yNuJw213yNuKw212zPuJ12zPuK13zPuJu013zPuKu01",
    "3zPuJu113zPuKu113zPuJw213zPuKw212yPuJ12yPuK13yPuJu013yPuKu013yPuJu113yPuKu113yPuJw213yPuKw21",
    "2zVuJ12zVuK13zVuJu013zVuKu013zVuJu113zVuKu132yVuJ12yVuK13yVuJu013yVuKu013yVuJu113yVuKu132<5u",
    "J12<5uK13<5uJu013<5uKu013<5uJu113<5uKu113<5uJw213<5uKw222z5uK23z5uKu023z5uKu123z5uKw212<9uJ1",
    "2<9uK13<9uJu013<9uKu013<9uJu113<9uKu113<9uJw213<9uKw212z9uJ12z9uK13z9uJu013z9uKu013z9uJu113z",
    "9uKu113z9uJw213z9uKw212zHu012zHu112zLu012zLu112zNu012zNu112zPu012zPu112zVu012zVu112<5u012<5u",
    "112<9u012<9u133zHuJw513zHuKw514zHuJu0w514zHuKu0w514zHuJu1w514zHuKu1w514zHuJw2w514zHuKw2w513y",
    "HuJw513yHuKw514yHuJu0w514yHuKu0w514yHuJu1w514yHuKu1w514yHuJw2w514yHuKw2w513zNuJw513zNuKw514z",
    "NuJu0w514zNuKu0w514zNuJu1w514zNuKu1w514zNuJw2w514zNuKw2w513yNuJw513yNuKw514yNuJu0w514yNuKu0w",
    "514yNuJu1w514yNuKu1w514yNuJw2w514yNuKw2w513<9uJw513<9uKw514<9uJu0w514<9uKu0w514<9uJu1w514<9u",
    "Ku1w514<9uJw2w514<9uKw2w513z9uJw513z9uKw514z9uJu0w514z9uKu0w514z9uJu1w514z9uKu1w514z9uJw2w51",
    "4z9uKw2w512zHu612zHu413zHu0w512zHw513zHu1w522zHw213zHw2w512yHu612yHu412yHu012yHu112yHw521zP3",
    "2b8w213zNu0w512zNw513zNu1w522zNw213zNw2w512yLu012yLu112yNu012yNu112yNw512dzVu012dzVu112dzVw2",
    "12zPu612zPu413zPu8u013zPu8u132zPw213zPu8w212yPu612yPu412yPu012yPu122d>Uu012d>Uu112d>Uw212<5u",
    "612<5u413<5u8u013<5u8u112<1uJ12<1uK12<5w213<5u8w212z5u612z5u412z5u012z5u112z1uK12b8u012b8u11",
    "1Z033<9u0w512<9w513<9u1w522<9w213<9w2w512yVu012yVu112z9u012z9u112z9w511bK31eW211eW3f51z941YB",
    "12Y1uAZF2eiGvO12eiIvOJ2eiKvOV2ekGvO12ekKvO12ekIvOXL2em3vO52em8vO32emBvOO2en3vO22en5vOR2enSvO",
    "32eo3vO32eo5vO22eo8vON2XTvO22ep1vOB2eoDvO12XSvO12XUvO12ep4vO12ep5vO32epIvO12epJvO32epMvO12ep",
    "NvO72epQvO12epRvO32eq2vO12eq3vO32eq6vO12eq7vOX32er2vO12er8vO12er9vO12erBvOXH2epSvO12epTvO12e",
    "qHvO12eqIvO72erIvO12erJvO12erKvO12erLvOXS1iW811iW9XzI2gsTvOXhG2iYBiaP22iYDiaP22iYFiaP22iYHia",
    "P22iYJiaP22iYLiaP22iYNiaP22iYPiaP22iYRiaP22iYTiaP22iYViaP22iZ1iaP32iZ4iaP22iZ6iaP22iZ8iaP72i",
    "ZFiaP12iZFiaQ22iZIiaP12iZIiaQ22iZLiaP12iZLiaQ22iZOiaP12iZOiaQ22iZRiaP12iZRiaQN2iY6iaPA2iaTia",
    "PE2ibBiaP22ibDiaP22ibFiaP22ibHiaP22ibJiaP22ibLiaP22ibNiaP22ibPiaP22ibRiaP22ibTiaP22ibViaP22i",
    "c1iaP32ic4iaP22ic6iaP22ic8iaP72icFiaP12icFiaQ22icIiaP12icIiaQ22icLiaP12icLiaQ22icOiaP12icOia",
    "Q22icRiaP12icRiaQN2ib6iaP32idFiaP12idGiaP12idHiaP12idIiaP42idTiaPXoW21XZY811vtK11XZsA11XZc81",
    "1xsH11pnI11q>511XdyS11XdyS11sgH11XakH11ri711sg811ulM11zp911>y511XXnV11XXzQ11XYdO11XaaF11wm21",
    "1xeR11ycP11y<U11XXXT11XahA11XclH11pq211qxL11wu411ymR11XXnD11XdmU11tgG11x>B11XXkD11XYh411us91",
    "1XWkO11XYWV11tsA11vuN11xhA11ytS11XacE11py611qjN11qsU11vc411wsJ11ymG11zt711XWW111XXm611XXoS11",
    "XZlF11XbvI11XcxF11XdlQ11<aC11<hV11>j011XW<911Xau411XdpV11XYsM11scV11tu411>Z011XWZU11yp211<cA",
    "11XZc211XbtN11scO11tZ211wmJ11xkQ11xuF11>fF11>nN11XboB11qsI11XWaB11qkS11qkC11<mS11>jU11XW>H11",
    "XbpL11XYy011usF11wm211XYtU11pnP11s>711uWI11yy711zhG11quN11<dR11pzV11tz911pmD11xcC11vhO11>f21",
    "1q<311sYU11zu111XXY911XYrA11wzQ11XZzG11xa811utU11XWt511uz011zh511prE11qh911qk911wa111>d711XW",
    "pF11XYsI11XakF11qtL11rY211shJ11ttC11vk511x>U11<fA11XbjD11XcpA11XdqN11XdsE11qqR11vs611wxN11XZ",
    "x211tpK11uiG11um011vaQ11xv311yg911za911<kA11>lK11XWZF11XZv611XXdE11XaX311XawA11qmN11qr311rbT",
    "11yc811XYc211XYrA11ts911t>L11uxR11wzE11>XU11yxL11pt411rtP11s>711tjQ11uWS11yzI11zZ911>yQ11XWY",
    "611XanK11XbtM11Xbw811XcWO11pyB11<jE11XajK11XbrO11ud111pq611qcQ11s>E11tXV11viP11wm211ykE11zo2",
    "11XXdS11XaZS11XdyD11vq811XbnE11qq911vxR11v>J11xg111xqS11zW911zgP11<ZB11>eG11XcYU11qhD11unE11",
    "XbpO11qXB11teP11xlA11XZvA11tyB11ug411wWN11yy711Xbq611qn911rWF11tZ511vmJ11vwE11wb811xd511zW61",
    "1zl211>xP11XYcF11XYd111XakC11Xbt211qvV11xrQ11rWT11ykG11zaO11XXlQ11Xbr311XdYN11XdqV11vyN11xkB",
    "11XWl811<sB11<v011>aI11ys011yaP11XYwO11ps011XWvM11qnQ11qm711tr611usJ11>cM11sy511xeU11vrK11XZ",
    "vR11XYYC11XboD11XYiB11tsJ11qg011rk031sYQ21vpK31qkU11yvA11zsA11<fS11<gU11<h511<iF11XbwM11>bU1",
    "1>zT21XXmI21XYtO31XaXO11XadT41XcdF11XcdS11Xcf811XdjK11XacU11XbrN11pzE11qd711qgD11qs911qt411q",
    "wH11riT11rm611rp811sY011sb811tZ411tZE11uaK11uh811uiE11ulI11vgF11vl211vqH11wa511xhN11xmQ11xv2",
    "11yhE11ynB11zX211<aH11<fU11<g911<g811<gG11<gM11<gT11<iD11<iE11<o011<q111<<011>lK11>m911>o111",
    ">xI11XWW511XWlD11XWpP11XWpP11XXYN11XYeG11XYiM11XYu111XYvP11XZcJ11XZe811XZzM11XaXO11Xbt311Xb>",
    "V11XcXR11uZL11amtE11XWmO31pn611qjL11qh811py011qg511qi011qs711qtQ11riT11rgL11riP11rl211sYQ11s",
    "bJ11sg411sgK11sp211sv811tsI11tsP11tx911tzD11ucO11ugE11ue811uiE11uh011ulI11unK11u<411vWS11vYI",
    "11vgM11vpK11vuN11vuR11vwM11wxP11wzQ11xg111xsR11xsB11xv211yWU11yhE11zz711ynL11yrF11yvA11zZH11",
    "ze611zfR11zmT11zmV11zsA11zsR11ztK11zwA11zw011<cC11<rH11<<011>ZR11>gR11>lK11>vU11XWW511XWwI11",
    "XW>F11XXxP11XYg111XYi611XYiM11XYrV11XYtO11XYsB11XYu111XYtU11XYtD11XYvP11XYyA11XZe811XZvO11Xa",
    "ZI11XaiP11XapM11XbpS11Xbt311XbwM11Xb<R11Xb>V11XcWB11XcXR11XcuI11XdyS11agYA11agY411ai<L11kyT1",
    "1mWO11mXP11aqo911atcG11a>sJ11Xdw311XdyEY42XkPXjK22XlIXjNB2Xl9Xk112Xl9Xk213Xl9XjSXk113Xl9XjSX",
    "k212XkGXjN12XkGXjO12XkGXjS12XkHXjS12XkIXjS12XkJXjS12XkKXjS12XkLXjS12XkMXjS22XkOXjS12XkPXjS12",
    "XkQXjS12XkRXjS12XkSXjS22XkUXjS22Xl0XjS12Xl1XjS22Xl3XjS12Xl4XjS22Xl6XjS12Xl7XjS12Xl8XjS12Xl9X",
    "jS12XlAXjS12XkLXjP12XkHXjV12XkRXjV12Xl4XjVYpR2YXkIu7R2YXkQu7YrM2YaaPYabQ22YaaRYabQF2Yab5YabQ",
    "a32YafHYaf712YafIYaf7mS2Yaw7YavU12Yaw7YawNXN2Yay2Ya<922Yay4YazR92YayBYa<232YayGYa<9XK2Ya<2Ya",
    "<222Ya<2YazO12Ya<2Ya<9dJ2YbbPYbbQ12YbbPYbbG22YbbPYbbTdS2YbjOYbjF12YbjPYbjFxT2YcfLYcfGn>92Yue",
    "UYueU12YueUYuf912YueUYueV12Yuf9YueV12YueUYuf013YueUYueUYueV13YueUYuf9YueV13YueUYueUYuf0ZY02Y",
    "xh7Yxh712Yxh3Yxh713Yxh3Yxh7Yxh7u>K2ZqgNZqh512ZqgOZqh513ZqgOZqh5ZqhE13ZqgOZqh5ZqhF13ZqgOZqh5Z",
    "qhG13ZqgOZqh5ZqhH13ZqgOZqh5ZqhIYN2ZqjPZqh512ZqjQZqh513ZqjPZqh5ZqhE13ZqjQZqh5ZqhE13ZqjPZqh5Zq",
    "hF13ZqjQZqh5ZqhFYfo01pnT11pnO11po111aWf211px011pzE11pzR11qW211qZQ11qaP11qd711qcF11jaU11aXnQ1",
    "1qgD11qgK11qh411qhN11aXeS11jbP11qh711qiD11aXgB11qiN11qj411psC11qjC11qjL11bakV11qlL11qm311jcV",
    "11qnR11qo611qpI11qpN11jeL11qs711qs911qt411qtQ11qu511qu611quN11qw911qwH11qwQ11qxJ11qxT11qxV11",
    "qxV11qxV11aYnC11yZG11q<A11q<V11aYx311q>B11q>H11rW611raU11rXO11rY811rZ811rb211rdM11reG11rgJ11",
    "rh311ri411ri411riP11rjB11rjJ11rk211ruM11rm611ruN11roH11rpK11qm711sdE11r<E11r>K11sWD11ryB11sX",
    "I11sXH11sbC11abd411sdI11sdN11se611seQ11sf211sh211abr811abtA11slC11smR11sn711skO11sp611jtE11j",
    "tS11su811svU11svU11ack811s<311s<O11s>711s>J11acuO11s>V11tW611twJ11tX211jy111tZ011tZE11tc011t",
    "aD11adl411tg311adl611thE11thB11thS11tl111tl211kXF11tlT11tn811tnT11tp911kZ211aei311kZS11trG11",
    "trJ11trM11tsA11beyI11ttU11aevH11aevH11XWm111tv211tv211kc711airO11aukQ11tx211txB11kd311tyQ11t",
    "<D11t<N11t>P11ua111kfQ11keS11uaK11afsK11uc711ug811ugC11ugE11ugC11uhQ11uiE11ujI11uj411ujF11uk",
    "U11ulI11ulM11umG11umR11uoT11urH11usK11uwG11aguC11uvT11utS11ux811uy311u>411ag>H11vX211u<511uz",
    "911knE11vZ911vZU11vaT11vZN11kpC11vgF11vhC11aiWA11vl311vtO11vo911kuP11vqH11ku811kt411qiI11qiL",
    "11vu011vqS11XWbD11m<P11vuN11vuR11vv111vwU11vwJ11ai<311kw911v>Q11vy511wYI11wa511ajZD11waE11wW",
    "V11weK11kyT11wg211wj311wlA11wr811ajr311wsR11lWO11wv111akb711wwK11lYE11wxI11wyV11wzQ11wzR11ak",
    "qD11adeB11aktQ11xYE11albS11xbV11xcD11xZ711xeM11xfU11xhN11xg111xh911xhO11xi511aleU11xfK11xnF1",
    "1xpE11lfJ11xsB11xs711alsH11xlP11xxE11alwU11alyE11x<611yXP11yWU11yWR11liM11yYA11yZT11yZN11ybD",
    "11aXf511yg511amp311yiS11amzB11yn811ynL11yoG11anm811yq011yqL11anvL11aoWK11yxQ11yyB11lrC11yz51",
    "1lrO11lrO11zY711zYS11zZH11za511zcA11luR11zf411apXM11zfU11apaI11zhG11aeiV11zmG11apz111apzO11a",
    "qY411l>S11mW811ztK11aqdJ11aqdI11aqeP11aqfJ11zuU11zuV11zuV11zwA11mXP11zyB11mY611maM11arWT11<Y",
    "E11<aC11<cC11md311arn611<gM11arqQ11ars511<iF11<lB11mfF11<o011<oA11<oF11ashS11asr711asr711<tE",
    "11mm211aszB11<<611<<911mn711ata011>cI11mr011>d811>d311>e011aty611>h311mu111>k711>m211>o511mv",
    "K11aun811auo711mwP11ausP11>xQ11auvU11>yL11>>Q11XWW511avcQ11avf311XWZ011avj811XWZG11aiwV11m<L",
    "11XWbI11XWe311nWB11XWfU11srL11avz711avzL11aiyJ11aiyS11XWm111XWm411XZyU11nZB11XWqH11XWqB11XWq",
    "T11qrJ11XWrH11XWrJ11XWrT11XWt611awvS11XWt511XWuT11XWx311XWzD11XWv311XWzT11XW>711XXYN11XWwJ11",
    "XW<A11XW<C11XW<S11axXM11axhB11axcL11nfB11XXdH11XXdJ11XXeM11ay<A11XXh411axvC11ngT11nh111axzH1",
    "1aycI11nhB11XXoG11XXoS11XXp711XXp911XXr911XXq811XXuE11XXt211XXxP11XXv811XXxB11XXy611nkN11XX>",
    "111XYW111nlP11XYZ011XYZ311azp711XYcN11XYcU11nnL11XYdQ11jbR11a<bE11a<h611nrU11ns711XYr011XYtD",
    "11XYyA11XZYL11a>b811XZbB11XZc111XZeR11XZhN11a>vF11aYW411XZkB11XZjS11XZlG11aYcU11XZsK11XZvO11",
    "bXkI11bXlD11XaaK11XadH11XaeH11bXvE11XaeR11XanO11XasN11XasO11XapS11Xa>P11XbWL11bY>Q11XbiB11oi",
    "L11XbjN11bZhN11ol611Xbs311tjI11Xbv311bag511bamQ11opE11opM11Xb>011bbWA11orI11bbaM11XcWB11XcWB",
    "11XcX911bbjM11Xcd211ovJ11Xcf911Xcj711Xck211XclU11o<E11bcvG11XcuI11XdY011XddT11pcE11pdD11Xdh7",
    "11becE11pdO11bee511bemE11beqH11XdrR11pgM11XdtP11XdtU11Xdu511XduF11XduM11XdvR11bfm0"]

/-- Primary composites: for each pair that composes, the gap of its first code point from the
previous pair's first, its second code point and the composite; the pairs are in increasing order.
-/
def compositionText : String :=
  String.join [
    "XSvOepE1vOep01vOepF3u0c00u1c10u2c20u3c30u4e00u6e20u7n60u8c40u9dr20uAc50uCkD0uFm00uHm20v3dr00",
    "v5dm00v8e41u7dm20v3dm40vHdm61u1e60u2e80u7eA0uCeC0v7c71u7dmA0uCeE0v3dmC0v7dmG0vDdmI0vHdmE1u0c",
    "80u1c90u2cA0u3drS0u4eI0u6eK0u7eM0u8cB0u9drQ0uCeQ0uFm40uHm60v3drO0v7n80v8eO0vDdmO0vGdmQ1u7dmU",
    "1u1lK0u2eS0u4dn00u6eU0u7f00uCl60v7f21u2f40u7dn20u8dn60uCmU0v3dn40v7dn80vEdnA1u0cC0u1cD0u2cE0",
    "u3f80u4fA0u6fC0u7fG0u8cF0u9ds80uCkF0uFm80uHmA0v3dsA0v8fE0vGdnC1u2fK1u1dnG0uCl80v3dnI0v7fM0vH",
    "dnK1u1fP0uCfT0v3dnM0v7fR0vDdnS0vHdnQ1u1dnU0u7do00v3do21u0lO0u1g30u3cH0u7do40uCg70v3do60v7g50",
    "vDdoA0vHdo81u0cI0u1cJ0u2cK0u3cL0u4gC0u6gE0u7nE0u8cM0u9dsE0uBgG0uCkH0uFmC0uHmE0uRj00v3dsC0v8l",
    "A1u1doK0u7doM2u1gK0u7doO0uCgO0uFmG0uHmI0v3doQ0v7gM0vHdoU1u1gQ0u2gS0u7dp00uCh00v3dp20v6mO0v7g",
    "U1u7dpA0uCh40v3dpC0v6mQ0v7h20vDdpG0vHdpE1u0cP0u1cQ0u2cR0u3h80u4hA0u6hC0u8cS0u9dt60uAhE0uBhG0",
    "uCkJ0uFmK0uHmM0uRjF0v3dt40v4dpI0v8hI0vDdpM0vGdpK1u3dpS0v3dpU1u0dq00u1dq20u2hK0u7dq60u8dq40v3",
    "dq81u7dqA0u8dqC1u0dtI0u1cT0u2hM0u3dtO0u4nI0u7dqE0u8hO0u9dtM0v3dtK1u1hP0u2dqG0u7hR0uChT0v3dqI",
    "0vHdqK7u0d00u1d10u2d20u3d30u4e10u6e30u7n70u8d40u9dr30uAd50uCkE0uFm10uHm30v3dr10v5dm10v8e51u7",
    "dm30v3dm50vHdm71u1e70u2e90u7eB0uCeD0v7d71u7dmB0uCeF0v3dmD0v7dmH0vDdmJ0vHdmF1u0d80u1d90u2dA0u",
    "3drT0u4eJ0u6eL0u7eN0u8dB0u9drR0uCeR0uFm50uHm70v3drP0v7n90v8eP0vDdmP0vGdmR1u7dmV1u1lL0u2eT0u4",
    "dn10u6eV0u7f10uCl70v7f31u2f50u7dn30u8dn70uCmV0v3dn50v7dn90vEdnB0vHdqM1u0dC0u1dD0u2dE0u3f90u4",
    "fB0u6fD0u8dF0u9ds90uCkG0uFm90uHmB0v3dsB0v8fF0vGdnD1u2fL0uClG1u1dnH0uCl90v3dnJ0v7fN0vHdnL1u1f",
    "Q0uCfU0v3dnN0v7fS0vDdnT0vHdnR1u1dnV0u7do10v3do31u0lP0u1g40u3dH0u7do50uCg80v3do70v7g60vDdoB0v",
    "Hdo91u0dI0u1dJ0u2dK0u3dL0u4gD0u6gF0u7nF0u8dM0u9dsF0uBgH0uCkI0uFmD0uHmF0uRj10v3dsD0v8lB1u1doL",
    "0u7doN2u1gL0u7doP0uCgP0uFmH0uHmJ0v3doR0v7gN0vHdoV1u1gR0u2gT0u7dp10uCh10v3dp30v6mP0v7gV1u7dpB",
    "0u8dqN0uCh50v3dpD0v6mR0v7h30vDdpH0vHdpF1u0dP0u1dQ0u2dR0u3h90u4hB0u6hD0u8dS0u9dt70uAhF0uBhH0u",
    "CkK0uFmL0uHmN0uRjG0v3dt50v4dpJ0v8hJ0vDdpN0vGdpL1u3dpT0v3dpV1u0dq10u1dq30u2hL0u7dq70u8dq50uAd",
    "qO0v3dq91u7dqB0u8dqD1u0dtJ0u1dT0u2hN0u3dtP0u4nJ0u7dqF0u8dV0u9dtN0uAdqP0v3dtL1u1hQ0u2dqH0u7hS",
    "0uChU0v3dqJ0vHdqLXEu0d>D0u1y50w2d<1Qu0dr60u1dr40u3drA0u9dr82u4kU1u1lQ1u1lS0u4l21u1dm83u0ds00",
    "u1drU0u3ds40u9ds25u1dnE5u0dsI0u1dsG0u3dsM0u9dsK1u1doC0u4nC0u8doE1u4nA2u1lU4u0kR0u1kN0u4kL0uC",
    "kP6u0dr70u1dr50u3drB0u9dr92u4kV1u1lR1u1lT0u4l31u1dm93u0ds10u1drV0u3ds50u9ds35u1dnF5u0dsJ0u1d",
    "sH0u3dsN0u9dsL1u1doD0u4nD0u8doF1u4nB2u1lV4u0kS0u1kO0u4kM0uCkQ6u0drG0u1drE0u3drK0u9drI1u0drH0",
    "u1drF0u3drL0u9drJFu0dmK0u1dmM1u0dmL0u1dmNXPu0doG0u1doI1u0doH0u1doJDu7dp41u7dp55u7dp61u7dp77u",
    "1dpO1u1dpP1u8dpQ1u8dpRKu7dqRX1u0dsS0u1dsQ0u3dt00u9dsU0v3dt21u0dsT0u1dsR0u3dt10u9dsV0v3dt3Eu0",
    "dtA0u1dt80u3dtE0u9dtC0v3dtG1u0dtB0u1dt90u3dtF0u9dtD0v3dtH7uClEXJu4lC1u4lDXRu4l01u4l11u6dmS1u",
    "6dmT5u4nG1u4nHZ3uClFdVu0dzQ0u1y60u4dzP0u6dzO0uJdu80uKdu90w5dzS4u0d<80u1y80uJduO0uKduP2u0d<A0",
    "u1y90uJdv80uKdv90w5d<C2u0d<Q0u1yA0u4d<P0u6d<O0u8zA0uJdvO0uKdvP6u0d>O0u1yC0uJdw80uKdw92uKd>C4",
    "u0d>A0u1yE0u4d>90u6d>80u8zB0uKdwP4u0d>Q0u1yF0uJdx80uKdx90w5d>S3w5dzK2w5d<43u0dxG0u1zC0u4dzH0",
    "u6dzG0uJdu00uKdu10w2dzM0w5dzJ4u0dxI0u1zD0uJduG0uKduH2u0dxK0u1zE0uJdv00uKdv10w2d<60w5d<32u0dx",
    "M0u1zF0u4d<H0u6d<G0u8<A0uJdvG0uKdvH0w2d<M6u0dxO0u1<C0uJdw00uKdw12uJd>40uKd>54u0dxQ0u1<D0u4d>",
    "10u6d>00u8<B0uJdwG0uKdwH0w2d>64u0dxS0u1<E0uJdx00uKdx10w2d>M0w5d>J1u0d<I0u1yG0w2d<N1u0d>20u1z",
    "G0w2d>73w5d>K4u1<J0u8<KXKu8XW7Au6XcG0u8XcI3u1XW32u0XW00u6XcM0u8XW11u6Xc10u8XcS1u8XcU1u0XWD0u",
    "4Xd20u6XWP0u8Xd42u1XWC4u8Xd65u4XdE0u6XWE0u8XdG0uBXdI4u8XdK4u8XdO2u8XdC3u6XcH0u8XcJ3u1XYJ2u0X",
    "YG0u6XcN0u8XYH1u6Xc20u8XcT1u8XcV1u0XYT0u4Xd30u6XXP0u8Xd52u1XYS4u8Xd75u4XdF0u6XYU0u8XdH0uBXdJ",
    "4u8XdL4u8XdP2u8XdD9u8XYNUuFXZM1uFXZNZ3u8XcQ1u8XcRFu8XdA1u8XdBfUXoJXn20XoKXn30XoLXn5X1XoKXn42",
    "XoKXn6ZNXoKXs2HXoKXsJ3XoKXs0oJYfSYf98YfSYfH3YfSYfKaKYjUYkB0YkNYkCi0YvUYwB0YwMYw80YwNYwCYBY<N",
    "YyKXKYzUY<A0Y<NY<C1YzUY<BZVZYMZY8ZPZcLZc07Zc2ZcA0ZcLZc70ZcMZc84ZcLZcBZSZfUZgA0ZgNZgC1ZfUZgBa",
    "IZkAZkQ0ZkFZkS0ZkVZkU3ZkAZkTo9aXEaX6Yt0cvLcu62cvLcu82cvLcuA2cvLcuC2cvLcuE4cvLcuIX9cvLcvR2cvL",
    "cvT2cvLcw01cvLcw13cvLcw3tKu4dnO1u4dnPX3u4doS1u4doT7u7dp81u7dp9XTu2drC0u6drM1u2drD0u6drNNu2ds",
    "61u2ds7Ju2dsO1u2dsPXJu0du20u1du40w2du60w5dy01u0du30u1du50w2du70w5dy11w5dy21w5dy31w5dy41w5dy5",
    "1w5dy61w5dy71u0duA0u1duC0w2duE0w5dy81u0duB0u1duD0w2duF0w5dy91w5dyA1w5dyB1w5dyC1w5dyD1w5dyE1w",
    "5dyF1u0duI0u1duK1u0duJ0u1duL7u0duQ0u1duS1u0duR0u1duT7u0dv20u1dv40w2dv60w5dyG1u0dv30u1dv50w2d",
    "v70w5dyH1w5dyI1w5dyJ1w5dyK1w5dyL1w5dyM1w5dyN1u0dvA0u1dvC0w2dvE0w5dyO1u0dvB0u1dvD0w2dvF0w5dyP",
    "1w5dyQ1w5dyR1w5dyS1w5dyT1w5dyU1w5dyV1u0dvI0u1dvK0w2dvM1u0dvJ0u1dvL0w2dvN7u0dvQ0u1dvS0w2dvU1u",
    "0dvR0u1dvT0w2dvV7u0dw20u1dw41u0dw30u1dw57u0dwA0u1dwC1u0dwB0u1dwD7u0dwI0u1dwK0w2dwM1u0dwJ0u1d",
    "wL0w2dwN8u0dwR0u1dwT0w2dwV7u0dx20u1dx40w2dx60w5dz01u0dx30u1dx50w2dx70w5dz11w5dz21w5dz31w5dz4",
    "1w5dz51w5dz61w5dz71u0dxA0u1dxC0w2dxE0w5dz81u0dxB0u1dxD0w2dxF0w5dz91w5dzA1w5dzB1w5dzC1w5dzD1w",
    "5dzE1w5dzF1w5dzI4w5d<28w5d>IXQw5dzN9u0d<D0u1d<E0w2d<F7w5d<7XGw5d>N8u0d<T0u1d<U0w2d<ViIvOeiQ2",
    "vOeiR2vOejEXSvOekD2vOekF2vOekEXFvOem45vOem93vOemCOvOen42vOen6NvOeo17vOeo42vOeo73vOeo95vOepDK",
    "vOep23vOepG1vOepHDvOepK1vOepL3vOepO1vOepP3vOeq01vOeq11vOet01vOet15vOeq41vOeq53vOeq81vOeq9AvO",
    "et21vOet3GvOerC6vOerD1vOerE2vOerF7vOetA1vOetB1vOetC1vOetDZiHiaPiaK5iaPiYC2iaPiYE2iaPiYG2iaPi",
    "YI2iaPiYK2iaPiYM2iaPiYO2iaPiYQ2iaPiYS2iaPiYU2iaPiZ02iaPiZ23iaPiZ52iaPiZ72iaPiZ97iaPiZG0iaQiZ",
    "H3iaPiZJ0iaQiZK3iaPiZM0iaQiZN3iaPiZP0iaQiZQ3iaPiZS0iaQiZTX2iaPiaU9iaPidK5iaPibC2iaPibE2iaPib",
    "G2iaPibI2iaPibK2iaPibM2iaPibO2iaPibQ2iaPibS2iaPibU2iaPic02iaPic23iaPic52iaPic72iaPic97iaPicG",
    "0iaQicH3iaPicJ0iaQicK3iaPicM0iaQicN3iaPicP0iaQicQ3iaPicS0iaQicTKiaPidN1iaPidO1iaPidP1iaPidQB",
    "iaPidUXrcLu7YXk98u7YXl4YrVYabQYaaQ2YabQYaaSAYabQYabBaCYaf7YafE1Yaf7YafFmLYavUYawB0YawNYawCXR",
    "Ya<9Yay32YazRYay57Ya<2YayE5Ya<9YayHXIYazOYa<70Ya<2Ya<50Ya<9Ya<8dNYbbGYbbS0YbbQYbbR0YbbTYbbUd",
    "VYbjFYbjQ1YbjFYbjRxSYcfGYcfOn>9YueUYuf10YueVYuf30Yuf0Yuf50Yuf9Yuf23YueVYuf60Yuf0Yuf81YueVYuf",
    "77YueVYuf4ZXQYxh7Yxh94Yxh7Yxh82Yxh7YxhA"]

/-- Canonical combining classes: ranges of code points with the same class other than zero, as gap,
length and class. -/
def combiningClassText : String :=
  String.join [
    "u0Ld601d804cS01d801cO05cS02cA04cS02cA0BcS05104cS03d621d621dG01d603cS03d602cS13d604cS01d601d8",
    "02cS01d601d902dA01d902dA01d90Dd6eJ5d6e91cS04d601cS03d601cU01cS06d606cS02d601cS02d601cU01d401",
    "d601A01B01C01D01E01F01G01H01I02J01K01L01M11N11O01P11d601cS11IY88d601U01V01X0XG1R01S01T01U01V",
    "01X001X101X202d602cS05d601cS02d601cSG1X3Z57d624d601cS01d622d611cS02d601cSX31X4U1d601cS02d601",
    "cS02d603cS01d602cS01d601cS03d601cS01d601cS01d601cS01d601cS02d6b07d601cS01d691cSO4d619d613d61",
    "5d6XB3cSXR2d603cS04d6XA5d605cS0Ed611cS02d601cS02d601cS03d603cS01R01S01T03d601cS02d602cS05d6X",
    "S17G1931d601cS02d6Z717G19XG1d6XT17G19ZE17G19ZE17G19ZV19ZE17G1971YK01YRZ517G19ZD29G19ZS19ZD2Z",
    "7019D4ZBZC2ZM019D4ZQYC2cSR1cS11cS11cOXN1a101a211a454a221a212d601912d6XU1cSZG17129YI1cSsF3d6z",
    "K29U19aT19A1d6cB1d4aF1cU01d601cScR1d601cSY719K8d621cSXG5d606cS02d601cS12cS02d602cS05d601cS0I",
    "d601cS26d601cS04d601dAY817F19X61d601cS07d6XM29XQ17B29Y317aO3d611105cS02d604cS01d617141cS61d6",
    "32d6c62d601cS07d601cS02d601dA01cM01cS01cA0X5d601d802d401cS01cQ01d601d901cS01d601cSsG2d602104",
    "d603102d641d632101d601cS01d602104cS01d6Y>U3d6aD19Z0X0d6nA1cQ01d401d801cU02d0Z928zkK1d64Ad6X0",
    "2d6YG2d6eK19X519aN19RId6XP3cSX519YV17C19dF1d612d601cS22d652d611d6XK19dM19pvG1Qu17d607cS02d6<",
    "D1cSd21cSaL5d6XqI1cS11d6X81d601101cS419b51d601cSnT4d6Y15d6fT2d6YD2cS13cSY62cS03d601cS01d604c",
    "SXH1d601cS01d601cSc019X919E19XP19017Y53d6XG29XU17YC19917ZA19017bI17019YG27G19O7d635d6YP39ZH1",
    "9317N1d6Z319017dR19017ZU19ZM19017ZJ19eD19017e229417aS19YJ19I19YH19j519e217129YH19j929mlC19Yk",
    "051XR7d6XbP26pbC11bc62cO03131d205cO88cS25d602cSU4d6aK3d6ZjR7d61Hd627d612d615d6Z41d6b07d6hN1d",
    "6XT4d6lS2d801cS01d6dU1d601cSdJ1d621d672d651d6kQ7cSZD6d6017"]

/-- Read decomposition records from `prev` on: each code point with its full decomposition. -/
def decompositionRecords (prev : Nat) (acc : List (Nat × List Nat)) :
    List Nat → List (Nat × List Nat)
  | gap :: k :: rest =>
    decompositionRecords (prev + gap) ((prev + gap, rest.take k) :: acc) (rest.drop k)
  | _ => acc.reverse
termination_by xs => xs.length
decreasing_by simp only [List.length_drop, List.length_cons]; omega

/-- One number for a pair of code points. -/
def pairKey (a b : Nat) : Nat := a * 0x110000 + b

/-- Read composition records from `prev` on: each pair as one key, with its composite. -/
def compositionRecords : List Nat → Nat → List (Nat × Nat)
  | gap :: second :: composite :: rest, prev =>
    (pairKey (prev + gap) second, composite) :: compositionRecords rest (prev + gap)
  | _, _ => []

/-- Full canonical decompositions, read once. -/
def decompositionTable : KeyTable (List Nat) :=
  .ofList (decompositionRecords 0 [] (numbers decompositionText))

/-- Primary composites by pair, read once. -/
def compositionTable : KeyTable Nat := .ofList (compositionRecords (numbers compositionText) 0)

/-- Canonical combining classes, read once. -/
def combiningClassTable : RangeTable := .read combiningClassText

/-- The canonical combining class of a code point; zero for starters. -/
def combiningClass (cp : Nat) : Nat := combiningClassTable.get cp

def hangulBase : Nat := 0xAC00

/-- The number of Hangul syllables: 19 leading consonants, 21 vowels, 28 trailing consonants
(one of them none). -/
def hangulCount : Nat := 11172

/-- The full canonical decomposition of a code point. A Hangul syllable splits into its leading
consonant, vowel and, unless absent, trailing consonant. -/
def decompose (cp : Nat) : List Nat :=
  if hangulBase ≤ cp ∧ cp < hangulBase + hangulCount then
    let s := cp - hangulBase
    let t := s % 28
    let lv := [0x1100 + s / 588, 0x1161 + (s % 588) / 28]
    if t = 0 then lv else lv ++ [0x11A7 + t]
  else (decompositionTable.find? cp).getD [cp]

/-- The primary composite of a pair, if it has one. -/
def compose (a b : Nat) : Option Nat :=
  if 0x1100 ≤ a ∧ a < 0x1100 + 19 ∧ 0x1161 ≤ b ∧ b < 0x1161 + 21 then
    some (hangulBase + ((a - 0x1100) * 21 + (b - 0x1161)) * 28)
  else if hangulBase ≤ a ∧ a < hangulBase + hangulCount ∧ (a - hangulBase) % 28 = 0 ∧
      0x11A7 < b ∧ b < 0x11A7 + 28 then
    some (a + (b - 0x11A7))
  else compositionTable.find? (pairKey a b)

/-- Put a mark with its class into a run of marks kept last first: it goes after every mark of
a class at most its own. -/
def insertMark (x : Nat × Nat) : List (Nat × Nat) → List (Nat × Nat)
  | [] => [x]
  | y :: ys => if y.2 > x.2 then y :: insertMark x ys else x :: y :: ys

/-- Canonical order: `done` holds the ordered text last first, `run` the marks since the last
starter, last first. -/
def reorderFrom (done : List Nat) (run : List (Nat × Nat)) : List Nat → List Nat
  | [] => (run.map (·.1) ++ done).reverse
  | cp :: rest =>
    let cc := combiningClass cp
    if cc = 0 then reorderFrom (cp :: (run.map (·.1) ++ done)) [] rest
    else reorderFrom done (insertMark (cp, cc) run) rest

/-- Put the marks of every run in canonical order. -/
def reorder (cps : List Nat) : List Nat := reorderFrom [] [] cps

/-- Where composition stands: the text before the last starter (last first), that starter, the
code points after it (last first), and the class of the last of those (zero when there are
none, 256 when the text began with a mark). -/
structure Composing where
  done : List Nat
  starter : Option Nat
  after : List Nat
  lastClass : Nat

/-- Compose one more code point: it joins the starter when nothing blocks it and they compose;
otherwise a starter begins a new run and a mark is kept. -/
def Composing.push (st : Composing) (cp : Nat) : Composing :=
  let cc := combiningClass cp
  match st.starter with
  | none => { st with starter := some cp, lastClass := if cc = 0 then 0 else 256 }
  | some s =>
    match (if st.lastClass < cc ∨ st.lastClass = 0 then compose s cp else none) with
    | some p => { st with starter := some p }
    | none =>
      if cc = 0 then { done := st.after ++ s :: st.done, starter := some cp, after := [], lastClass := 0 }
      else { st with after := cp :: st.after, lastClass := cc }

def Composing.finish (st : Composing) : List Nat :=
  match st.starter with
  | none => st.done.reverse
  | some s => (st.after ++ s :: st.done).reverse

/-- Normalization Form C of a text of code points. -/
def nfc (cps : List Nat) : List Nat :=
  ((reorder (cps.flatMap decompose)).foldl Composing.push ⟨[], none, [], 0⟩).finish

end ChatStream.Unicode
