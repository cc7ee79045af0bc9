import Mathlib.Data.List.Basic
import Zicsr.Proofs.Header.Definition
import Zicsr.Proofs.Names
import Zicsr.Proofs.Text.Split

/-
  The lines of a header.

  No line of a header holds a line end, so the text of a header divides into its
  lines again (`lines_text`). The definitions of registers and CSRs hold no
  dollar sign either, so whatever a header defines besides the calls, the words
  that it defines are the calls and the return (`definitions_text`).
-/

namespace Zicsr.Header

/-! ## What the lines hold -/

/-- The ends of a line, and the mark before an expression. -/
def marks : Text := ['\n', '\r', '$']

theorem digits_avoid {t : Text} (h : Numeral.AllDigits 16 t) : Text.Avoids marks t :=
  h.avoids (by decide)

theorem defineLine_avoids {name value : Text} (hname : Text.Avoids marks name)
    (hvalue : Text.Avoids marks value) : Text.Avoids marks (defineLine name value) := by
  have hspace : Text.Avoids marks (' ' :: value) :=
    Text.Avoids.append (a := [' ']) (by decide) hvalue
  exact (Text.Avoids.append (by decide) hname).append hspace

theorem registerLine_avoids (r : Register) : Text.Avoids marks (registerLine r) :=
  defineLine_avoids (r.alphanumeric_name.avoids (by decide))
    (digits_avoid ((Numeral.allDigits_decimal r.index).mono (by decide)))

theorem csrName_avoids (c : Csr) : Text.Avoids marks (csrName c) := by
  rw [csrName]
  cases h : c.name? with
  | some t => exact (Csr.alphanumeric_names _ (Csr.nameOf?_mem h)).1.avoids (by decide)
  | none =>
    exact Text.Avoids.append (by decide) (digits_avoid (Numeral.allDigits_hexPadded 3 c.address))

theorem csrLine_avoids (width : Nat) (c : Csr) : Text.Avoids marks (csrLine width c) := by
  have hspaces : ∀ n, Text.Avoids marks (List.replicate n ' ') := fun n m hm hmem => by
    obtain rfl := List.eq_of_mem_replicate hmem
    exact absurd hm (by decide)
  have hvalue : Text.Avoids marks (Numeral.literalPadded 3 c.address) :=
    Text.Avoids.append (a := ['0', 'x']) (by decide)
      (digits_avoid (Numeral.allDigits_hexPadded 3 c.address))
  exact defineLine_avoids ((csrName_avoids c).append (hspaces _)) hvalue

/-! ## The lines of the text -/

theorem mem_group {ls : List Text} {l : Text} (h : l ∈ group ls) : l = [] ∨ l ∈ ls := by
  unfold group at h
  split at h
  · cases h
  · exact List.mem_cons.mp h

/-- Every line is one that is written without a value, or a call, or the return. -/
theorem mem_lines {h : Header} {l : Text} (hl : l ∈ h.lines) :
    Text.Avoids marks l ∨ l ∈ callLines ∨ l = returnLine := by
  have hopening : ∀ l ∈ opening, Text.Avoids marks l := by decide
  have hgroup : ∀ {ls : List Text}, l ∈ group ls → (l ∈ ls → Text.Avoids marks l) →
      Text.Avoids marks l := fun hg hls => (mem_group hg).elim (fun he => by rw [he]; decide) hls
  simp only [lines, List.mem_append] at hl
  rcases hl with (((hl | hl) | hl) | hl) | hl
  · exact .inl (hopening l hl)
  · refine .inl (hgroup hl fun hr => ?_)
    obtain ⟨r, -, rfl⟩ := List.mem_map.mp hr
    exact registerLine_avoids r
  · refine .inl (hgroup hl fun hc => ?_)
    obtain ⟨c, -, rfl⟩ := List.mem_map.mp hc
    exact csrLine_avoids _ c
  · rcases mem_group hl with rfl | hl
    · exact .inl (by decide)
    · exact .inr (.inl hl)
  · rcases mem_group hl with rfl | hl
    · exact .inl (by decide)
    · exact .inr (.inr (List.mem_singleton.mp hl))

/-- The text of a header divides into its lines. -/
theorem lines_text (h : Header) : Text.lines h.text = h.lines := by
  have hcalls : ∀ l ∈ callLines ++ [returnLine], '\n' ∉ l ∧ '\r' ∉ l := by
    decide
  refine Text.lines_unlines fun l hl => ?_
  rcases mem_lines hl with hl | hl | rfl
  · exact ⟨hl '\n' (by decide), hl '\r' (by decide)⟩
  · exact hcalls l (List.mem_append_left _ hl)
  · exact hcalls _ (List.mem_append_right _ List.mem_cons_self)

/-! ## The words that it defines -/

theorem read?_of_avoids {l : Text} (h : Text.Avoids marks l) : Definition.read? l = none := by
  have hcut : Text.cutAt? (· == '$') l = none :=
    Text.cutAt?_of_forall_not (Text.forall_beq_of_not_mem (h '$' (by decide)))
  rw [Definition.read?, hcut]

/-- The line between two groups goes where it gives nothing. -/
theorem filterMap_group {α : Type} {f : Text → Option α} (hf : f [] = none) (ls : List Text) :
    (group ls).filterMap f = ls.filterMap f := by
  unfold group
  split
  · next h => rw [h]
  · rw [List.filterMap_cons_none hf]

/-- A header defines the words of the calls and of the return, whatever else it
defines. -/
theorem definitions_text (h : Header) :
    definitions h.text = callForms.map Form.definition ++ [returnDefinition] := by
  have hnone : ∀ {ls : List Text}, (∀ l ∈ ls, Text.Avoids marks l) →
      ls.filterMap Definition.read? = [] := fun hls =>
    List.filterMap_eq_nil_iff.mpr fun l hl => read?_of_avoids (hls l hl)
  have hopening : opening.filterMap Definition.read? = [] := hnone (by decide)
  have hregisters : (h.registers.map registerLine).filterMap Definition.read? = [] :=
    hnone (List.forall_mem_map.mpr fun r _ => registerLine_avoids r)
  have hcsrs : (h.csrs.map (csrLine (nameWidth h.csrs))).filterMap Definition.read? = [] :=
    hnone (List.forall_mem_map.mpr fun c _ => csrLine_avoids _ c)
  have hcalls : callLines.filterMap Definition.read? = callForms.map Form.definition := by
    have hread := congrArg (List.filterMap id) Definition.map_read?_callLines
    rwa [List.filterMap_map, List.filterMap_map, Function.id_comp, Function.id_comp,
      List.filterMap_some] at hread
  have hempty : Definition.read? [] = none := read?_of_avoids (by decide)
  rw [definitions, lines_text, lines]
  simp only [List.filterMap_append, filterMap_group hempty, hopening, hregisters, hcsrs, hcalls,
    List.filterMap_cons_some Definition.read?_returnLine, List.filterMap_nil, List.nil_append]

end Zicsr.Header
