import PromptStudio.Text.Direction

/-!
# Joining letters

Letters of some scripts join the one before or behind them. A joiner that keeps two letters apart has its place only
between letters that would join. Only what a domain name may hold is told apart.
-/

namespace PromptStudio.Joining

def onwardRanges : List (Nat × Nat) := [
  (0x0620, 0x0620), (0x0626, 0x0626), (0x0628, 0x0628), (0x062A, 0x062E), (0x0633, 0x0647), (0x0649, 0x064A),
  (0x066E, 0x066F), (0x0679, 0x0687), (0x069A, 0x06BF), (0x06C1, 0x06C2), (0x06CC, 0x06CC), (0x06CE, 0x06CE),
  (0x06D0, 0x06D1), (0x06FA, 0x06FC), (0x06FF, 0x06FF), (0x0712, 0x0714), (0x071A, 0x071D), (0x071F, 0x0727),
  (0x0729, 0x0729), (0x072B, 0x072B), (0x072D, 0x072E), (0x074E, 0x0758), (0x075C, 0x076A), (0x076D, 0x0770),
  (0x0772, 0x0772), (0x0775, 0x0777), (0x077A, 0x077F), (0x07CA, 0x07EA), (0x0841, 0x0845), (0x0848, 0x0848),
  (0x084A, 0x0853), (0x0855, 0x0855), (0x0860, 0x0860), (0x0862, 0x0865), (0x0868, 0x0868), (0x0886, 0x0886),
  (0x0889, 0x088D), (0x08A0, 0x08A9), (0x08AF, 0x08B0), (0x08B3, 0x08B8), (0x08BA, 0x08C8), (0x1820, 0x1878),
  (0x1887, 0x18A8), (0x18AA, 0x18AA), (0xA840, 0xA872), (0x10AC0, 0x10AC4), (0x10ACD, 0x10ACD), (0x10AD3, 0x10ADC),
  (0x10ADE, 0x10AE0), (0x10B80, 0x10B80), (0x10B82, 0x10B82), (0x10B86, 0x10B88), (0x10B8A, 0x10B8B),
  (0x10B8D, 0x10B8D), (0x10B90, 0x10B90), (0x10D00, 0x10D21), (0x10D23, 0x10D23), (0x10F30, 0x10F32),
  (0x10F34, 0x10F44), (0x10F70, 0x10F73), (0x10F76, 0x10F81), (0x10FB0, 0x10FB0), (0x10FB2, 0x10FB3),
  (0x10FB8, 0x10FB8), (0x10FBB, 0x10FBC), (0x10FBE, 0x10FBF), (0x10FC1, 0x10FC1), (0x10FC4, 0x10FC4),
  (0x1E922, 0x1E943)]

def backwardRanges : List (Nat × Nat) := [
  (0x0620, 0x0620), (0x0622, 0x064A), (0x066E, 0x066F), (0x0671, 0x0673), (0x0679, 0x06D5), (0x06EE, 0x06EF),
  (0x06FA, 0x06FC), (0x06FF, 0x0710), (0x0712, 0x072F), (0x074D, 0x077F), (0x07CA, 0x07EA), (0x0840, 0x0858),
  (0x0860, 0x0860), (0x0862, 0x0865), (0x0867, 0x0882), (0x0886, 0x0886), (0x0889, 0x088E), (0x08A0, 0x08AC),
  (0x08AE, 0x08C8), (0x1820, 0x1878), (0x1887, 0x18A8), (0x18AA, 0x18AA), (0xA840, 0xA871), (0x10AC0, 0x10AC5),
  (0x10AC7, 0x10ACA), (0x10ACE, 0x10AD6), (0x10AD8, 0x10AE1), (0x10AE4, 0x10AE4), (0x10B80, 0x10B91),
  (0x10D01, 0x10D23), (0x10F30, 0x10F44), (0x10F70, 0x10F81), (0x10FB0, 0x10FB0), (0x10FB2, 0x10FB6),
  (0x10FB8, 0x10FBF), (0x10FC1, 0x10FC4), (0x1E922, 0x1E943)]

/-- What letters join through beside marks without a direction of their own. -/
def transparentRanges : List (Nat × Nat) := [
  (0x0CBF, 0x0CBF), (0x0CC6, 0x0CC6), (0x11A07, 0x11A08), (0x11C3F, 0x11C3F), (0x1E94B, 0x1E94B)]

def isTransparent (n : Nat) : Bool :=
  Direction.ofPoint n == .mark || inRanges transparentRanges n

/-- Whether the first code point through which letters do not join is in the ranges. -/
def leads (ranges : List (Nat × Nat)) (points : List Nat) : Bool :=
  (points.find? (!isTransparent ·)).any (inRanges ranges)

/-- Whether letters join across a place: `before` stands before it, the nearest first, and `behind` follows. -/
def joins (before behind : List Nat) : Bool :=
  leads onwardRanges before && leads backwardRanges behind

end PromptStudio.Joining
