import PlatformClient.Charset.Plane

/-!
# The planes of the extended simplified Chinese

GBK fills the cells around GB 2312, by the two octets that stand for them: symbols, the ideographs
that GB 2312 lacks in the order of their code points, and a few compatibility forms. GB 18030 fills
the cells that are left with letters, radicals and characters for private use.

## Main definitions

* `Plane.gbkSpans`: what GBK adds apart from ideographs in order
* `Plane.gb18030Spans`: what GB 18030 adds apart from characters for private use
-/

namespace PlatformClient.Charset.Plane

/-- The symbols and compatibility forms of GBK. -/
def gbkSpans : List Span :=
  [
    ⟨0xA1, 0xA4, "·"⟩, ⟨0xA1, 0xAA, "—"⟩, ⟨0xA2, 0xA1, "ⅰⅱⅲⅳⅴⅵⅶⅷⅸⅹ"⟩,
    ⟨0xA6, 0xE0, "︵︶︹︺︿﹀︽︾﹁﹂﹃﹄"⟩, ⟨0xA6, 0xEE, "︻︼︷︸︱"⟩, ⟨0xA6, 0xF4, "︳︴"⟩,
    ⟨0xA8, 0x40, "\u02ca\u02cb\u02d9–―‥‵℅℉↖↗↘↙∕∟∣≒≦≧⊿═║╒╓╔╕╖╗╘╙╚╛╜╝╞╟╠╡╢╣╤╥╦╧╨╩╪╫╬╭╮╯╰╱╲╳▁"⟩,
    ⟨0xA8, 0x79, "▂▃▄▅▆▇"⟩, ⟨0xA8, 0x80, "█▉▊▋▌▍▎▏▓▔▕▼▽◢◣◤◥☉⊕〒〝〞"⟩, ⟨0xA8, 0xBB, "ɑ"⟩,
    ⟨0xA8, 0xBD, "ńň"⟩, ⟨0xA8, 0xC0, "ɡ"⟩,
    ⟨0xA9, 0x40, "〡〢〣〤〥〦〧〨〩㊣㎎㎏㎜㎝㎞㎡㏄㏎㏑㏒㏕︰￢￤"⟩, ⟨0xA9, 0x59, "℡㈱"⟩,
    ⟨0xA9, 0x5C, "‐"⟩,
    ⟨0xA9, 0x60, "\u30fc\u309b\u309c\u30fd\u30fe〆\u309d\u309e﹉﹊﹋﹌﹍﹎﹏﹐﹑﹒﹔﹕﹖﹗"⟩,
    ⟨0xA9, 0x76, "﹙﹚﹛﹜﹝﹞﹟﹠﹡"⟩, ⟨0xA9, 0x80, "﹢﹣﹤﹥﹦﹨﹩﹪﹫"⟩, ⟨0xA9, 0x96, "〇"⟩,
    ⟨0xFD, 0x9C, "\uf92c\uf979\uf995\uf9e7\uf9f1"⟩,
    ⟨0xFE, 0x40, "\ufa0c\ufa0d﨎﨏﨑﨓﨔\ufa18﨟\ufa20﨡﨣﨤﨧﨨﨩"⟩
  ]

/-- The characters of GB 18030 in cells that GBK leaves empty, apart from those for private use. -/
def gb18030Spans : List Span :=
  [
    ⟨0xA2, 0xE3, "€"⟩, ⟨0xA8, 0xBF, "ǹ"⟩, ⟨0xA9, 0x89, "〾⿰⿱⿲⿳⿴⿵⿶⿷⿸⿹⿺⿻"⟩,
    ⟨0xFE, 0x50, "⺁"⟩, ⟨0xFE, 0x54, "⺄㑳㑇⺈⺋"⟩, ⟨0xFE, 0x5A, "㖞㘚㘎⺌⺗㥮㤘"⟩,
    ⟨0xFE, 0x62, "㧏㧟㩳㧐"⟩, ⟨0xFE, 0x68, "㭎㱮㳠⺧"⟩, ⟨0xFE, 0x6E, "⺪䁖䅟⺮䌷⺳⺶⺷"⟩,
    ⟨0xFE, 0x77, "䎱䎬⺻䏝䓖䙡䙌"⟩, ⟨0xFE, 0x80, "䜣䜩䝼䞍⻊䥇䥺䥽䦂䦃䦅䦆䦟䦛䦷䦶"⟩,
    ⟨0xFE, 0x92, "䲣䲟䲠䲡䱷䲢䴓䴔䴕䴖䴗䴘䴙䶮"⟩
  ]

end PlatformClient.Charset.Plane
