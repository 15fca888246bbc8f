import ClockFace.Locale.Data.EnUs
import ClockFace.Locale.Data.EnGb
import ClockFace.Locale.Data.DeDe
import ClockFace.Locale.Data.FrCa
import ClockFace.Locale.Data.JaJp
import ClockFace.Locale.Data.KoKr
import ClockFace.Locale.Data.ZhTw
import ClockFace.Locale.Data.BgBg
import ClockFace.Locale.Data.ElGr
import ClockFace.Locale.Data.TrTr
import ClockFace.Locale.Data.EeGh
import ClockFace.Locale.Data.GdGb
import ClockFace.Locale.Data.NdsDe
import ClockFace.Locale.Data.ArEg

/-! # The locales with data -/

namespace ClockFace.LocaleData

/-- Every locale that has data. -/
def all : List LocaleData :=
  [enUs, enGb, deDe, frCa, jaJp, koKr, zhTw, bgBg, elGr, trTr, eeGh, gdGb, ndsDe, arEg]

end ClockFace.LocaleData
