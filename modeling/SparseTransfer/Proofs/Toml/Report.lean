import Mathlib.Data.List.Basic
import SparseTransfer.Toml.Misfit

/- What a report on a misfit shows of the text: the line that it is in, and how much of it is
marked. -/
namespace SparseTransfer.Toml

/-- Texts with the same lines, but for what stands in them. -/
def SameLines (cs cs' : List Char) : Prop := cs'.map (· == '\n') = cs.map (· == '\n')

instance (cs cs' : List Char) : Decidable (SameLines cs cs') := inferInstanceAs (Decidable (_ = _))

namespace SameLines
variable {cs cs' : List Char}

theorem length (h : SameLines cs cs') : cs'.length = cs.length := by
  simpa using congrArg List.length h

theorem take (h : SameLines cs cs') (n : Nat) : SameLines (cs.take n) (cs'.take n) := by
  rw [SameLines, List.map_take, List.map_take, h]

theorem drop (h : SameLines cs cs') (n : Nat) : SameLines (cs.drop n) (cs'.drop n) := by
  rw [SameLines, List.map_drop, List.map_drop, h]

theorem reverse (h : SameLines cs cs') : SameLines cs.reverse cs'.reverse := by
  rw [SameLines, List.map_reverse, List.map_reverse, h]

theorem count (h : SameLines cs cs') : cs'.count '\n' = cs.count '\n' := by
  have hcount (l : List Char) : l.count '\n' = (l.map (· == '\n')).count true := by
    rw [List.count, List.count, List.countP_map]
    exact List.countP_congr fun c _ => by simp
  rw [hcount, hcount, h]

theorem length_takeWhile (h : SameLines cs cs') :
    (cs'.takeWhile (· != '\n')).length = (cs.takeWhile (· != '\n')).length := by
  have hlength (l : List Char) : (l.takeWhile (· != '\n')).length =
      ((l.map (· == '\n')).takeWhile (!·)).length := by
    rw [List.takeWhile_map, List.length_map]
    rfl
  rw [hlength, hlength, h]

end SameLines

/-- What stands at a stretch of a text. -/
def Span.of (span : Span) (cs : List Char) : List Char :=
  (cs.drop span.start).take (span.stop - span.start)

/-- The stretch of a text that is the line around an offset. -/
def lineAround (cs : List Char) (offset : Nat) : Span :=
  let place := Place.find cs offset
  let start := (cs.take offset).length - place.column
  ⟨start, start + place.content.length⟩

section lines
variable {cs cs' : List Char} {offset : Nat}

theorem content_find (cs : List Char) (offset : Nat) :
    (Place.find cs offset).content = (lineAround cs offset).of cs := by
  have hbefore := congrArg List.reverse
    (List.takeWhile_append_dropWhile (p := (· != '\n')) (l := (cs.take offset).reverse))
  have hafter := List.takeWhile_append_dropWhile (p := (· != '\n')) (l := cs.drop offset)
  rw [List.reverse_append, List.reverse_reverse] at hbefore
  rw [lineAround, Span.of, Place.find]
  dsimp only
  generalize ((cs.take offset).reverse.takeWhile (· != '\n')).reverse = start at hbefore ⊢
  generalize ((cs.take offset).reverse.dropWhile (· != '\n')).reverse = pre at hbefore
  generalize (cs.drop offset).takeWhile (· != '\n') = stop at hafter ⊢
  have hpre : (cs.take offset).length - start.length = pre.length := by
    rw [← hbefore, List.length_append, Nat.add_sub_cancel]
  have hcs : cs = pre ++ ((start ++ stop) ++ (cs.drop offset).dropWhile (· != '\n')) := by
    conv_lhs => rw [← List.take_append_drop offset cs, ← hbefore, ← hafter]
    simp only [List.append_assoc]
  rw [hpre, Nat.add_sub_cancel_left]
  conv_rhs => rw [hcs, List.drop_left, List.take_left]

theorem find_of_sameLines (h : SameLines cs cs') (offset : Nat) :
    (Place.find cs' offset).line = (Place.find cs offset).line ∧
      (Place.find cs' offset).column = (Place.find cs offset).column ∧
      (Place.find cs' offset).content.length = (Place.find cs offset).content.length := by
  have hbefore := (h.take offset).reverse.length_takeWhile
  have hafter := (h.drop offset).length_takeWhile
  refine ⟨(h.take offset).count, ?_, ?_⟩
  · simpa [Place.find] using hbefore
  · simpa [Place.find, hafter] using hbefore

theorem lineAround_of_sameLines (h : SameLines cs cs') (offset : Nat) :
    lineAround cs' offset = lineAround cs offset := by
  obtain ⟨-, hcolumn, hlength⟩ := find_of_sameLines h offset
  rw [lineAround, lineAround, hcolumn, hlength, (h.take offset).length]

end lines

namespace Misfit
variable {cs cs' : List Char}

/-- What a report shows of the text: a line, and how many marks stand below it. -/
def excerpt (cs : List Char) (misfit : Misfit) : List Char × Nat :=
  let place := Place.find cs misfit.span.start
  (place.content, markCount cs misfit.span place)

/-- Around its excerpt, a report depends only on where in the text the misfit is. -/
theorem exists_report_eq (misfit : Misfit) (line column : Nat) : ∃ before ruler reason : String,
    ∀ cs : List Char, (Place.find cs misfit.span.start).line = line →
      (Place.find cs misfit.span.start).column = column →
      misfit.report (String.ofList cs) = before ++ (String.ofList (misfit.excerpt cs).1 ++
        (ruler ++ (String.ofList (List.replicate (misfit.excerpt cs).2 '^') ++ reason))) := by
  refine ⟨"TOML parse error at line " ++ toString (line + 1) ++ ", column " ++
    toString (column + 1) ++ "\n" ++
    String.ofList (List.replicate ((toString (line + 1)).length + 1) ' ') ++ "|\n" ++
    toString (line + 1) ++ " | ",
    "\n" ++ String.ofList (List.replicate ((toString (line + 1)).length + 1) ' ') ++ "|" ++
      String.ofList (List.replicate (column + 1) ' '),
    "\n" ++ misfit.mismatch.message ++ "\n", fun cs hline hcolumn => ?_⟩
  unfold report excerpt
  subst hline hcolumn
  simp only [String.append_assoc, String.toList_ofList]

/-- A report quotes the line of the misfit. -/
theorem excerpt_infix (cs : List Char) (misfit : Misfit) :
    (misfit.excerpt cs).1 <:+: (misfit.report (String.ofList cs)).toList := by
  obtain ⟨before, ruler, reason, hreport⟩ := misfit.exists_report_eq
    (Place.find cs misfit.span.start).line (Place.find cs misfit.span.start).column
  rw [hreport cs rfl rfl]
  simp only [String.toList_append, String.toList_ofList]
  exact ⟨before.toList, _, List.append_assoc ..⟩

/-- In texts with the same lines, the reports on a misfit differ exactly if what they show of the
texts differs. -/
theorem report_eq_iff (h : SameLines cs cs') (misfit : Misfit) :
    misfit.report (String.ofList cs') = misfit.report (String.ofList cs) ↔
      misfit.excerpt cs' = misfit.excerpt cs := by
  obtain ⟨hline, hcolumn, hlength⟩ := find_of_sameLines h misfit.span.start
  obtain ⟨before, ruler, reason, hreport⟩ := misfit.exists_report_eq
    (Place.find cs misfit.span.start).line (Place.find cs misfit.span.start).column
  rw [hreport cs rfl rfl, hreport cs' hline hcolumn, ← String.toList_inj]
  simp only [String.toList_append, String.toList_ofList, List.append_cancel_left_eq]
  refine ⟨fun heq => ?_, fun heq => by rw [heq]⟩
  obtain ⟨hcontent, hrest⟩ := List.append_inj heq hlength
  have hmarks := congrArg List.length hrest
  simp only [List.length_append, List.length_replicate] at hmarks
  exact Prod.ext hcontent (by omega)

theorem excerpt_of_sameLines (h : SameLines cs cs') (misfit : Misfit)
    (hline : (lineAround cs misfit.span.start).of cs' = (lineAround cs misfit.span.start).of cs)
    (hspan : misfit.span.of cs' = misfit.span.of cs) : misfit.excerpt cs' = misfit.excerpt cs := by
  obtain ⟨-, hcolumn, -⟩ := find_of_sameLines h misfit.span.start
  have hcontent := content_find cs' misfit.span.start
  rw [lineAround_of_sameLines h, hline, ← content_find] at hcontent
  rw [Span.of, Span.of] at hspan
  rw [excerpt, excerpt, markCount, markCount, hcontent, hcolumn, hspan]

theorem line_of_excerpt (h : SameLines cs cs') (misfit : Misfit)
    (hexcerpt : misfit.excerpt cs' = misfit.excerpt cs) :
    (lineAround cs misfit.span.start).of cs' = (lineAround cs misfit.span.start).of cs := by
  have hcontent := congrArg Prod.fst hexcerpt
  rw [excerpt, excerpt] at hcontent
  dsimp only at hcontent
  rwa [content_find, content_find, lineAround_of_sameLines h] at hcontent

end Misfit
end SparseTransfer.Toml
