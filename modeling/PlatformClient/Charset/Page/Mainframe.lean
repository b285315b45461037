import PlatformClient.Charset.Page

/-!
# Pages of mainframes

The pages of EBCDIC, by number. In them letters and digits lie apart from those of ASCII.

## Main definitions

* `Page.cp37`, `Page.cp273`, `Page.cp424`, `Page.cp500`, `Page.cp875`, `Page.cp1026`, `Page.cp1140`:
  the pages
-/

namespace PlatformClient.Charset.Page

/-- English on mainframes. -/
def cp37 : Page :=
  ⟨0x04, [
    "\u009c\x09\u0086\x7f\u0097\u008d\u008e\x0b\x0c\x0d\x0e\x0f\x10\x11\x12\x13\u009d\u0085",
    "\x08\u0087\x18\x19\u0092\u008f\x1c\x1d\x1e\x1f\u0080\u0081\u0082\u0083\u0084\x0a\x17\x1b",
    "\u0088\u0089\u008a\u008b\u008c\x05\x06\x07\u0090\u0091\x16\u0093\u0094\u0095\u0096\x04",
    "\u0098\u0099\u009a\u009b\x14\x15\u009e\x1a \u00a0âäàáãåçñ¢.<(+|&éêëèíîïìß!$*);¬-/ÂÄÀÁÃÅÇ",
    "Ñ¦,%_>?øÉÊËÈÍÎÏÌ\x60:#@'=\x22Øabcdefghi«»ðýþ±°jklmnopqrªºæ\u00b8Æ¤µ~stuvwxyz¡¿ÐÝÞ®^£¥·©§",
    "¶¼½¾[]\u00af\u00a8\u00b4×\x7bABCDEFGHI\u00adôöòóõ\x7dJKLMNOPQR¹ûüùúÿ\x5c÷STUVWXYZ²ÔÖÒÓÕ0",
    "123456789³ÛÜÙÚ\u009f"]⟩

/-- German on mainframes. -/
def cp273 : Page :=
  ⟨0x04, [
    "\u009c\x09\u0086\x7f\u0097\u008d\u008e\x0b\x0c\x0d\x0e\x0f\x10\x11\x12\x13\u009d\u0085",
    "\x08\u0087\x18\x19\u0092\u008f\x1c\x1d\x1e\x1f\u0080\u0081\u0082\u0083\u0084\x0a\x17\x1b",
    "\u0088\u0089\u008a\u008b\u008c\x05\x06\x07\u0090\u0091\x16\u0093\u0094\u0095\u0096\x04",
    "\u0098\u0099\u009a\u009b\x14\x15\u009e\x1a \u00a0â\x7bàáãåçñÄ.<(+!&éêëèíîïì~Ü$*);^-/Â[ÀÁ",
    "ÃÅÇÑö,%_>?øÉÊËÈÍÎÏÌ\x60:#§'=\x22Øabcdefghi«»ðýþ±°jklmnopqrªºæ\u00b8Æ¤µßstuvwxyz¡¿ÐÝÞ®¢£¥",
    "·©@¶¼½¾¬|‾\u00a8\u00b4×äABCDEFGHI\u00adô¦òóõüJKLMNOPQR¹û\x7dùúÿÖ÷STUVWXYZ²Ô\x5cÒÓÕ012345",
    "6789³Û]ÙÚ\u009f"]⟩

/-- Hebrew on mainframes. -/
def cp424 : Page :=
  ⟨0x04, [
    "\u009c\x09\u0086\x7f\u0097\u008d\u008e\x0b\x0c\x0d\x0e\x0f\x10\x11\x12\x13\u009d\u0085",
    "\x08\u0087\x18\x19\u0092\u008f\x1c\x1d\x1e\x1f\u0080\u0081\u0082\u0083\u0084\x0a\x17\x1b",
    "\u0088\u0089\u008a\u008b\u008c\x05\x06\x07\u0090\u0091\x16\u0093\u0094\u0095\u0096\x04",
    "\u0098\u0099\u009a\u009b\x14\x15\u009e\x1a אבגדהוזחט¢.<(+|&יךכלםמןנס!$*);¬-/עףפץצקרש¦,%_",
    ">?�ת��\u00a0���‗\x60:#@'=\x22�abcdefghi«»���±°jklmnopqr���\u00b8�¤µ~stuvwxyz�����®^£¥·©§",
    "¶¼½¾[]\u00af\u00a8\u00b4×\x7bABCDEFGHI\u00ad�����\x7dJKLMNOPQR¹�����\x5c÷STUVWXYZ²�����0",
    "123456789³����\u009f"]⟩

/-- Western European languages on mainframes. -/
def cp500 : Page :=
  ⟨0x04, [
    "\u009c\x09\u0086\x7f\u0097\u008d\u008e\x0b\x0c\x0d\x0e\x0f\x10\x11\x12\x13\u009d\u0085",
    "\x08\u0087\x18\x19\u0092\u008f\x1c\x1d\x1e\x1f\u0080\u0081\u0082\u0083\u0084\x0a\x17\x1b",
    "\u0088\u0089\u008a\u008b\u008c\x05\x06\x07\u0090\u0091\x16\u0093\u0094\u0095\u0096\x04",
    "\u0098\u0099\u009a\u009b\x14\x15\u009e\x1a \u00a0âäàáãåçñ[.<(+!&éêëèíîïìß]$*);^-/ÂÄÀÁÃÅÇ",
    "Ñ¦,%_>?øÉÊËÈÍÎÏÌ\x60:#@'=\x22Øabcdefghi«»ðýþ±°jklmnopqrªºæ\u00b8Æ¤µ~stuvwxyz¡¿ÐÝÞ®¢£¥·©§",
    "¶¼½¾¬|\u00af\u00a8\u00b4×\x7bABCDEFGHI\u00adôöòóõ\x7dJKLMNOPQR¹ûüùúÿ\x5c÷STUVWXYZ²ÔÖÒÓÕ0",
    "123456789³ÛÜÙÚ\u009f"]⟩

/-- Greek on mainframes. -/
def cp875 : Page :=
  ⟨0x04, [
    "\u009c\x09\u0086\x7f\u0097\u008d\u008e\x0b\x0c\x0d\x0e\x0f\x10\x11\x12\x13\u009d\u0085",
    "\x08\u0087\x18\x19\u0092\u008f\x1c\x1d\x1e\x1f\u0080\u0081\u0082\u0083\u0084\x0a\x17\x1b",
    "\u0088\u0089\u008a\u008b\u008c\x05\x06\x07\u0090\u0091\x16\u0093\u0094\u0095\u0096\x04",
    "\u0098\u0099\u009a\u009b\x14\x15\u009e\x1a ΑΒΓΔΕΖΗΘΙ[.<(+!&ΚΛΜΝΞΟΠΡΣ]$*);^-/ΤΥΦΧΨΩΪΫ|,%_",
    ">?\u00a8ΆΈΉ\u00a0ΊΌΎΏ\x60:#@'=\x22\u0385abcdefghiαβγδεζ°jklmnopqrηθικλμ\u00b4~stuvwxyzνξ",
    "οπρσ£άέήϊίόύϋώςτυφχψ\x7bABCDEFGHI\u00adωΐΰ‘―\x7dJKLMNOPQR±½\x1a\u0387’¦\x5c\x1aSTUVWXYZ²",
    "§\x1a\x1a«¬0123456789³©\x1a\x1a»\u009f"]⟩

/-- Turkish on mainframes. -/
def cp1026 : Page :=
  ⟨0x04, [
    "\u009c\x09\u0086\x7f\u0097\u008d\u008e\x0b\x0c\x0d\x0e\x0f\x10\x11\x12\x13\u009d\u0085",
    "\x08\u0087\x18\x19\u0092\u008f\x1c\x1d\x1e\x1f\u0080\u0081\u0082\u0083\u0084\x0a\x17\x1b",
    "\u0088\u0089\u008a\u008b\u008c\x05\x06\x07\u0090\u0091\x16\u0093\u0094\u0095\u0096\x04",
    "\u0098\u0099\u009a\u009b\x14\x15\u009e\x1a \u00a0âäàáãå\x7bñÇ.<(+!&éêëèíîïìßĞİ*);^-/ÂÄÀÁ",
    "ÃÅ[Ñş,%_>?øÉÊËÈÍÎÏÌı:ÖŞ'=ÜØabcdefghi«»\x7d\x60¦±°jklmnopqrªºæ\u00b8Æ¤µöstuvwxyz¡¿]$@®¢£¥",
    "·©§¶¼½¾¬|\u00af\u00a8\u00b4×çABCDEFGHI\u00adô~òóõğJKLMNOPQR¹û\x5cùúÿü÷STUVWXYZ²Ô#ÒÓÕ0123",
    "456789³Û\x22ÙÚ\u009f"]⟩

/-- English on mainframes with the euro sign. -/
def cp1140 : Page :=
  ⟨0x04, [
    "\u009c\x09\u0086\x7f\u0097\u008d\u008e\x0b\x0c\x0d\x0e\x0f\x10\x11\x12\x13\u009d\u0085",
    "\x08\u0087\x18\x19\u0092\u008f\x1c\x1d\x1e\x1f\u0080\u0081\u0082\u0083\u0084\x0a\x17\x1b",
    "\u0088\u0089\u008a\u008b\u008c\x05\x06\x07\u0090\u0091\x16\u0093\u0094\u0095\u0096\x04",
    "\u0098\u0099\u009a\u009b\x14\x15\u009e\x1a \u00a0âäàáãåçñ¢.<(+|&éêëèíîïìß!$*);¬-/ÂÄÀÁÃÅÇ",
    "Ñ¦,%_>?øÉÊËÈÍÎÏÌ\x60:#@'=\x22Øabcdefghi«»ðýþ±°jklmnopqrªºæ\u00b8Æ€µ~stuvwxyz¡¿ÐÝÞ®^£¥·©§",
    "¶¼½¾[]\u00af\u00a8\u00b4×\x7bABCDEFGHI\u00adôöòóõ\x7dJKLMNOPQR¹ûüùúÿ\x5c÷STUVWXYZ²ÔÖÒÓÕ0",
    "123456789³ÛÜÙÚ\u009f"]⟩

end PlatformClient.Charset.Page
