/-!
# Additions to the grid of simplified Chinese

In GBK the rows have 190 cells. Some cells outside of the grid of GB 2312 hold symbols, and in
GB 18030 some more do.
-/

namespace ApiBridge.Charset

/-- The cells of GBK, in runs that start at a cell each. -/
def gbkRuns : List (Nat × String) :=
  [
    (6179, "·"),
    (6185, "—"),
    (6366, "ⅰⅱⅲⅳⅴⅵⅶⅷⅸⅹ"),
    (7189, "︵︶︹︺︿﹀︽︾﹁﹂﹃﹄"),
    (7203, "︻︼︷︸︱"),
    (7209, "︳︴"),
    (7410, "ˊˋ˙–―‥‵℅℉↖↗↘↙∕∟∣≒≦≧⊿═║╒╓╔╕╖╗╘╙╚╛╜╝╞╟╠"
      ++ "╡╢╣╤╥╦╧╨╩╪╫╬╭╮╯╰╱╲╳▁▂▃▄▅▆▇█▉▊▋▌▍▎▏▓▔▕▼▽◢◣◤"
      ++ "◥☉⊕〒〝〞"),
    (7532, "ɑ"),
    (7534, "ńň"),
    (7537, "ɡ"),
    (7600, "〡〢〣〤〥〦〧〨〩㊣㎎㎏㎜㎝㎞㎡㏄㏎㏑㏒㏕︰￢￤"),
    (7625, "℡㈱"),
    (7628, "‐"),
    (7632, "ー゛゜ヽヾ〆ゝゞ﹉﹊﹋﹌﹍﹎﹏﹐﹑﹒﹔﹕﹖﹗﹙﹚﹛﹜﹝﹞﹟﹠﹡﹢﹣﹤﹥﹦﹨"
      ++ "﹩﹪﹫"),
    (7685, "〇"),
    (23651, "\uf92c\uf979\uf995\uf9e7\uf9f1"),
    (23750, "\ufa0c\ufa0d\ufa0e\ufa0f\ufa11\ufa13\ufa14\ufa18\ufa1f\ufa20\ufa21\ufa23"
      ++ "\ufa24\ufa27\ufa28\ufa29")
  ]

/-- The further cells of GB 18030, in runs that start at a cell each. -/
def gb18030Runs : List (Nat × String) :=
  [
    (6432, "€"),
    (7536, "ǹ"),
    (7672, "〾⿰⿱⿲⿳⿴⿵⿶⿷⿸⿹⿺⿻"),
    (23766, "⺁"),
    (23770, "⺄㑳㑇⺈⺋"),
    (23776, "㖞㘚㘎⺌⺗㥮㤘"),
    (23784, "㧏㧟㩳㧐"),
    (23790, "㭎㱮㳠⺧"),
    (23796, "⺪䁖䅟⺮䌷⺳⺶⺷"),
    (23805, "䎱䎬⺻䏝䓖䙡䙌"),
    (23813, "䜣䜩䝼䞍⻊䥇䥺䥽䦂䦃䦅䦆䦟䦛䦷䦶"),
    (23831, "䲣䲟䲠䲡䱷䲢䴓䴔䴕䴖䴗䴘䴙䶮")
  ]

/-- Runs of characters for private use: where a run starts, its first code point and its length. -/
def gb18030PrivateRuns : List (Nat × Nat × Nat) :=
  [
    (6080, 0xe4c6, 96), (6270, 0xe526, 96), (6376, 0xe766, 6), (6433, 0xe76d, 1),
    (6444, 0xe76e, 2), (6458, 0xe770, 2), (6460, 0xe586, 96), (6650, 0xe5e6, 96),
    (6829, 0xe772, 11), (6840, 0xe646, 96), (7022, 0xe77d, 8), (7030, 0xe6a6, 96),
    (7150, 0xe785, 8), (7182, 0xe78d, 7), (7201, 0xe794, 2), (7208, 0xe796, 1), (7211, 0xe797, 9),
    (7220, 0xe706, 96), (7349, 0xe7a0, 15), (7397, 0xe7af, 13), (7495, 0xe7bc, 11),
    (7533, 0xe7c7, 1), (7538, 0xe7c9, 4), (7579, 0xe7cd, 21), (7624, 0xe7e2, 1),
    (7627, 0xe7e3, 1), (7629, 0xe7e4, 3), (7686, 0xe7f4, 13), (7775, 0xe801, 15),
    (7886, 0xe000, 94), (8076, 0xe05e, 94), (8266, 0xe0bc, 94), (8456, 0xe11a, 94),
    (8646, 0xe178, 94), (8836, 0xe1d6, 94), (16525, 0xe810, 5), (22706, 0xe234, 94),
    (22896, 0xe292, 94), (23086, 0xe2f0, 94), (23276, 0xe34e, 94), (23466, 0xe3ac, 94),
    (23656, 0xe40a, 94), (23767, 0xe816, 3), (23775, 0xe81e, 1), (23783, 0xe826, 1),
    (23788, 0xe82b, 2), (23794, 0xe831, 2), (23804, 0xe83b, 1), (23812, 0xe843, 1),
    (23829, 0xe854, 2), (23845, 0xe864, 1), (23846, 0xe468, 94)
  ]

end ApiBridge.Charset
