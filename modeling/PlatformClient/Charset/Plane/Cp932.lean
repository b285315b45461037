import PlatformClient.Charset.Plane

/-!
# The plane of Japanese on Windows

Characters that Windows adds to JIS X 0208, or takes in place of its own, by the two octets that
stand for them.

## Main definitions

* `Plane.cp932`: the characters in which Windows differs from JIS X 0208
-/

namespace PlatformClient.Charset.Plane

/-- The runs of `cp932`. -/
def cp932Spans : List Span :=
  [
    ⟨0x81, 0x60, "～∥"⟩, ⟨0x81, 0x7C, "－"⟩, ⟨0x81, 0x91, "￠￡"⟩, ⟨0x81, 0xCA, "￢"⟩,
    ⟨0x87, 0x40, "①②③④⑤⑥⑦⑧⑨⑩⑪⑫⑬⑭⑮⑯⑰⑱⑲⑳ⅠⅡⅢⅣⅤⅥⅦⅧⅨⅩ"⟩,
    ⟨0x87, 0x5F, "㍉㌔㌢㍍㌘㌧㌃㌶㍑㍗㌍㌦㌣㌫㍊㌻㎜㎝㎞㎎㎏㏄㎡"⟩, ⟨0x87, 0x7E, "㍻"⟩,
    ⟨0x87, 0x80, "〝〟№㏍℡㊤㊥㊦㊧㊨㈱㈲㈹㍾㍽㍼≒≡∫∮∑√⊥∠∟⊿∵∩∪"⟩,
    ⟨0xED, 0x40, "纊褜鍈銈蓜俉炻昱棈鋹曻彅丨仡仼伀伃伹佖侒侊侚侔俍偀倢俿倞偆偰偂傔僴僘兊兤"⟩,
    ⟨0xED, 0x64, "冝冾凬刕劜劦勀勛匀匇匤卲厓厲叝﨎咜咊咩哿喆坙坥垬埈埇﨏"⟩,
    ⟨0xED, 0x80, "\ufa10增墲夋奓奛奝奣妤妺孖寀甯寘寬尞岦岺峵崧嵓﨑嵂嵭嶸嶹巐弡弴彧德忞恝悅"⟩,
    ⟨0xED, 0xA2, "悊惞惕愠惲愑愷愰憘戓抦揵摠撝擎敎昀昕昻昉昮昞昤晥晗晙\ufa12晳暙暠暲暿曺朎"⟩,
    ⟨0xED, 0xC4, "\uf929杦枻桒柀栁桄棏﨓楨﨔榘槢樰橫橆橳橾櫢櫤毖氿汜沆汯泚洄涇浯涖涬淏淸淲"⟩,
    ⟨0xED, 0xE6, "淼渹湜渧渼溿澈澵濵瀅瀇瀨炅炫焏焄煜煆煇\ufa15燁燾犱"⟩,
    ⟨0xEE, 0x40, "犾猤\ufa16獷玽珉珖珣珒琇珵琦琪琩琮瑢璉璟甁畯皂皜皞皛皦\ufa17睆劯砡硎硤硺"⟩,
    ⟨0xEE, 0x60, "礰\ufa18\ufa19\ufa1a禔\ufa1b禛竑竧\ufa1c竫箞\ufa1d絈絜綷綠緖繒罇羡\ufa1e"⟩,
    ⟨0xEE, 0x76, "茁荢荿菇菶葈蒴蕓蕙"⟩,
    ⟨0xEE, 0x80, "蕫﨟薰\ufa20﨡蠇裵訒訷詹誧誾諟\ufa22諶譓譿賰賴贒赶﨣軏﨤\ufa25遧郞\ufa26"⟩,
    ⟨0xEE, 0x9C, "鄕鄧釚釗釞釭釮釤釥鈆鈐鈊鈺鉀鈼鉎鉙鉑鈹鉧銧鉷鉸鋧鋗鋙鋐﨧鋕鋠鋓錥錡鋻﨨錞"⟩,
    ⟨0xEE, 0xC0, "鋿錝錂鍰鍗鎤鏆鏞鏸鐱鑅鑈閒\uf9dc﨩隝隯霳霻靃靍靏靑靕顗顥\ufa2a\ufa2b餧"⟩,
    ⟨0xEE, 0xDD, "\ufa2c馞驎髙髜魵魲鮏鮱鮻鰀鵰鵫\ufa2d鸙黑"⟩, ⟨0xEE, 0xEF, "ⅰⅱⅲⅳⅴⅵⅶⅷⅸⅹ￢￤＇＂"⟩,
    ⟨0xFA, 0x40, "ⅰⅱⅲⅳⅴⅵⅶⅷⅸⅹⅠⅡⅢⅣⅤⅥⅦⅧⅨⅩ￢￤＇＂㈱№℡∵纊褜鍈銈蓜俉炻昱棈鋹曻彅丨仡仼伀伃伹佖"⟩,
    ⟨0xFA, 0x6F, "侒侊侚侔俍偀倢俿倞偆偰偂傔僴僘兊"⟩,
    ⟨0xFA, 0x80, "兤冝冾凬刕劜劦勀勛匀匇匤卲厓厲叝﨎咜咊咩哿喆坙坥垬埈埇﨏\ufa10增墲夋奓奛"⟩,
    ⟨0xFA, 0xA2, "奝奣妤妺孖寀甯寘寬尞岦岺峵崧嵓﨑嵂嵭嶸嶹巐弡弴彧德忞恝悅悊惞惕愠惲愑愷愰"⟩,
    ⟨0xFA, 0xC6, "憘戓抦揵摠撝擎敎昀昕昻昉昮昞昤晥晗晙\ufa12晳暙暠暲暿曺朎\uf929杦枻桒柀栁"⟩,
    ⟨0xFA, 0xE6, "桄棏﨓楨﨔榘槢樰橫橆橳橾櫢櫤毖氿汜沆汯泚洄涇浯"⟩,
    ⟨0xFB, 0x40, "涖涬淏淸淲淼渹湜渧渼溿澈澵濵瀅瀇瀨炅炫焏焄煜煆煇\ufa15燁燾犱犾猤\ufa16獷"⟩,
    ⟨0xFB, 0x60, "玽珉珖珣珒琇珵琦琪琩琮瑢璉璟甁畯皂皜皞皛皦\ufa17睆劯砡硎硤硺礰\ufa18"⟩,
    ⟨0xFB, 0x7E, "\ufa19"⟩,
    ⟨0xFB, 0x80, "\ufa1a禔\ufa1b禛竑竧\ufa1c竫箞\ufa1d絈絜綷綠緖繒罇羡\ufa1e茁荢荿菇菶葈蒴"⟩,
    ⟨0xFB, 0x9A, "蕓蕙蕫﨟薰\ufa20﨡蠇裵訒訷詹誧誾諟\ufa22諶譓譿賰賴贒赶﨣軏﨤\ufa25遧郞"⟩,
    ⟨0xFB, 0xB7, "\ufa26鄕鄧釚釗釞釭釮釤釥鈆鈐鈊鈺鉀鈼鉎鉙鉑鈹鉧銧鉷鉸鋧鋗鋙鋐﨧鋕鋠鋓錥錡"⟩,
    ⟨0xFB, 0xD9, "鋻﨨錞鋿錝錂鍰鍗鎤鏆鏞鏸鐱鑅鑈閒\uf9dc﨩隝隯霳霻靃靍靏靑靕顗顥\ufa2a"⟩,
    ⟨0xFB, 0xF7, "\ufa2b餧\ufa2c馞驎髙"⟩, ⟨0xFC, 0x40, "髜魵魲鮏鮱鮻鰀鵰鵫\ufa2d鸙黑"⟩
  ]

/-- The characters in which Windows differs from JIS X 0208. -/
def cp932 : Plane := ofSpans cp932Spans

end PlatformClient.Charset.Plane
