import ChannelGate.Text.Runs

set_option autoImplicit false

namespace ChannelGate.Recent

/-- Letters, syllables, ideographs and numerals: Armenian, Latin, Chisoi, cuneiform, Jurchen, Kana,
mathematical and seal characters. -/
def letterRuns : Runs :=
  [(0x530, 0x530), (0x558, 0x558), (0x58B, 0x58C), (0x208F, 0x208F), (0x209D, 0x209F),
   (0xA7DD, 0xA7E0), (0xA7E2, 0xA7F0), (0xAB6C, 0xAB6F), (0x12550, 0x1268F), (0x16D80, 0x16DAF),
   (0x18E00, 0x191DF), (0x1B123, 0x1B131), (0x1D6A6, 0x1D6A7), (0x3D000, 0x3FC3F)]

def markRuns : Runs := [(0x5C8, 0x5CF), (0xB53, 0xB54)]

def signRuns : Runs :=
  [(0x20C2, 0x20C5), (0x2E60, 0x2E6F), (0x1D250, 0x1D28F), (0x1F1AE, 0x1F1AF), (0x1F6D9, 0x1F6D9),
   (0x1FA8B, 0x1FA8D), (0x1FACC, 0x1FACC), (0x1FADD, 0x1FADE), (0x1FAEB, 0x1FAEE),
   (0x1FAF9, 0x1FAFA)]

def isLetter (c : Char) : Bool := letterRuns.holds c

def isMark (c : Char) : Bool := markRuns.holds c

def isSign (c : Char) : Bool := signRuns.holds c

/-- The character is new: Unicode 18 has it and Unicode 17 has not. -/
def isRecent (c : Char) : Bool := isLetter c || isMark c || isSign c

end ChannelGate.Recent
