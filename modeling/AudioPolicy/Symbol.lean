-- SUMMARY: The symbolic names of numeric codes, and the numbers a text denotes.
import AudioPolicy.Numeral

/-! # Symbols

Conditions compare numeric values with literals that are mostly written as
symbols, such as `MS_MUTED`. A symbol stands for the code of a state. A text
denotes a number if it is an integer of 64 bits or a symbol. -/

namespace AudioPolicy.Symbol

/-- Every symbol with its code. -/
def table : List (String × Int) :=
  [ ("FALSE", 0), ("TRUE", 1),
    ("A_UNKNOWN", 0), ("A_AVAILABLE", 1), ("A_UNAVAILABLE", 2),
    ("AR_UNKNOWN", 0), ("AR_NEWMEDIA", 1), ("AR_SAMEMEDIA", 2), ("AR_NOMEDIA", 3),
    ("AR_TEMPERATURE", 4), ("AR_VOLTAGE", 5), ("AR_ERRORMEDIA", 6),
    ("MS_UNKNOWN", 0), ("MS_MUTED", 1), ("MS_UNMUTED", 2),
    ("IS_UNKNOWN", 0), ("IS_OFF", 1), ("IS_INTERRUPTED", 2),
    ("CS_UNKNOWN", 0), ("CS_CONNECTING", 1), ("CS_CONNECTED", 2), ("CS_DISCONNECTING", 3),
    ("CS_DISCONNECTED", 4), ("CS_SUSPENDED", 5),
    ("DS_UNKNOWN", 0), ("DS_CONTROLLED", 1), ("DS_INDEPENDENT_STARTUP", 2),
    ("DS_INDEPENDENT_RUNDOWN", 3),
    ("SS_UNKNOWN", 0), ("SS_ON", 1), ("SS_OFF", 2), ("SS_PAUSED", 3),
    ("NS_UNKNOWN", 0), ("NS_OFF", 1), ("NS_PERIODIC", 2), ("NS_MINIMUM", 3),
    ("NS_MAXIMUM", 4), ("NS_CHANGE", 5),
    ("LS_UNKNOWN", 0), ("LS_LIMITED", 1), ("LS_UNLIMITED", 2),
    ("E_OK", 0), ("E_UNKNOWN", 1), ("E_OUT_OF_RANGE", 2), ("E_NOT_USED", 3),
    ("E_DATABASE_ERROR", 4), ("E_ALREADY_EXISTS", 5), ("E_NO_CHANGE", 6),
    ("E_NOT_POSSIBLE", 7), ("E_NON_EXISTENT", 8), ("E_ABORTED", 9),
    ("E_WRONG_FORMAT", 10), ("E_COMMUNICATION", 11),
    ("CF_UNKNOWN", 0), ("CF_MONO", 1), ("CF_STEREO", 2), ("CF_ANALOG", 3), ("CF_AUTO", 4) ]

/-- The code of a symbol. -/
def code? (name : String) : Option Int := table.lookup name

/-- The number a text denotes. Blanks around it do not count, and digits are
    tried before symbols. -/
def number? (text : String) : Option Int :=
  let word := Text.trim text
  match Numeral.int64? word with
  | some n => some n
  | none => code? word

end AudioPolicy.Symbol
