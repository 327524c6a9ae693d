import FieldInjection.Proofs.Creation
import FieldInjection.Proofs.Frames

/-!
# Brace depths around an injection

The depth in front of a line is what all lines before it have opened and not closed.  An injection
leaves it as it is in front of every line that was there: the lines that are put in close what they
open, and a signature with one more parameter has the braces that it had before.  Neither the type
of a field, nor its name, nor anything that a sound configuration contributes brings a brace of its
own.

## Main Definitions

* `depthBefore`: the depth in front of a line.
* `KeepsDepths`: an edit of a document that leaves its depths alone.

## Main Statements

* `keepsDepths_of_isClosed`: lines that close what they open can be put in anywhere.
* `inject_keepsDepths`: an injection leaves the depths alone.
-/

namespace FieldInjection

/-- The brace depth in front of a line: opening minus closing braces of all lines before it. -/
def depthBefore (lines : List Text) (index : Nat) : Int :=
  totalDelta (lines.take index)

/-- A document before and after an edit that leaves its depths alone: the lines `added` are put in
front of line `place`, and one of the lines before it may be another. -/
structure KeepsDepths (lines edited : List Text) (place : Nat) (added : List Text) : Prop where
  /-- The place is in the document or at its end. -/
  place_le : place ≤ lines.length
  /-- What the edit does. -/
  edited_eq : ∃ index line,
    edited = (lines.take place).set index line ++ (added ++ lines.drop place)
  /-- In front of a line before the place, the depth is the same. -/
  before : ∀ index ≤ place, depthBefore edited index = depthBefore lines index
  /-- In front of a line that was moved, the depth is the same. -/
  behind : ∀ index, place ≤ index →
    depthBefore edited (index + added.length) = depthBefore lines index
  /-- In front of and behind each line that is put in, the depth is not below that of the place. -/
  inserted : ∀ offset ≤ added.length, depthBefore lines place ≤ depthBefore edited (place + offset)
  /-- The document as a whole is as balanced as before. -/
  total : totalDelta edited = totalDelta lines

/-- Lines that close what they open never go below the depth that they begin at. -/
theorem IsClosed.totalDelta_take_nonneg {lines : List Text} (h : IsClosed lines) (count : Nat) :
    0 ≤ totalDelta (lines.take count) := by
  have hopen : StaysOpen 1 (lines.take count ++ lines.drop count) := by
    rw [List.take_append_drop]
    exact h.2 1 (by decide)
  have hpos := (staysOpen_append.mp hopen).1.total_pos (by decide)
  omega

/-- Another line with the same braces changes no depth. -/
theorem map_braceDelta_set {lines : List Text} {index : Nat} {line : Text}
    (h : ∀ old, lines[index]? = some old → braceDelta line = braceDelta old) :
    (lines.set index line).map braceDelta = lines.map braceDelta := by
  rw [List.map_set]
  rcases Nat.lt_or_ge index lines.length with hlt | hge
  · rw [h _ (List.getElem?_eq_getElem hlt), ← List.getElem_map (f :=
      braceDelta) (h := by simpa using hlt), List.set_getElem_self]
  · exact List.set_eq_of_length_le (by simpa using hge)

/-- Lines that close what they open can be put in anywhere, and a line can be replaced by one with
the same braces. -/
theorem keepsDepths_of_isClosed {lines added : List Text} {place : Nat} (index : Nat) (line : Text)
    (hplace : place ≤ lines.length)
    (hline : ∀ old, (lines.take place)[index]? = some old → braceDelta line = braceDelta old)
    (hadded : IsClosed added) :
    KeepsDepths lines ((lines.take place).set index line ++
      (added ++ lines.drop place)) place added := by
  have hmap := map_braceDelta_set hline
  have hlength : ((lines.take place).set index line).length = place := by
    rw [List.length_set, List.length_take_of_le hplace]
  -- up to the place each line has the braces that it had, so the sums are the same
  have hfront : ∀ count ≤ place,
      totalDelta (((lines.take place).set index line).take count) =
      totalDelta (lines.take count) := by
    intro count hcount
    have hsame : (((lines.take place).set index line).take count).map braceDelta =
        (lines.take count).map braceDelta := by
      rw [List.map_take, hmap, ← List.map_take, List.take_take, Nat.min_eq_left hcount]
    exact totalDelta_congr hsame
  have hwhole : totalDelta ((lines.take place).set index line) = totalDelta (lines.take place) :=
    totalDelta_congr hmap
  refine ⟨hplace, ⟨index, line, rfl⟩, fun count hcount => ?_, fun count hcount => ?_,
    fun offset hoffset => ?_, ?_⟩
  · rw [depthBefore, depthBefore, List.take_append_of_le_length (by omega), hfront count hcount]
  · obtain ⟨gap, rfl⟩ := Nat.exists_eq_add_of_le hcount
    have hsplit : place + gap + added.length =
        ((lines.take place).set index line).length + (added.length + gap) := by omega
    have hold : lines.take (place + gap) = lines.take place ++ (lines.drop place).take gap :=
      List.take_add
    rw [depthBefore, depthBefore, hsplit, List.take_length_add_append, List.take_length_add_append,
      hold, totalDelta_append, totalDelta_append, totalDelta_append, hwhole, hadded.1, zero_add]
  · have hsplit : place + offset = ((lines.take place).set index line).length + offset := by omega
    have hnonneg := hadded.totalDelta_take_nonneg offset
    rw [depthBefore, depthBefore, hsplit, List.take_length_add_append,
      List.take_append_of_le_length hoffset, totalDelta_append, hwhole]
    omega
  · rw [totalDelta_append, totalDelta_append, hwhole, hadded.1, zero_add, ← totalDelta_append,
      List.take_append_drop]

/-! ## The two edits -/

theorem braceDelta_declaredType_of_locateField {snapshot : Snapshot} {name : Text}
    {field : FieldReference} (h : locateField snapshot name = some field) :
    braceDelta field.declaredType = 0 := by
  refine braceDelta_eq_zero (fun hc => ?_) (fun hc => ?_) <;>
    exact absurd (allows_of_mem_declaredType h hc) (by decide)

/-- A new method leaves the depths alone. -/
theorem keepsDepths_createMethod {snapshot : Snapshot} {name : Text} {field : FieldReference}
    {span : ClassSpan} {config : Configuration} (hconfig : config.IsSound)
    (hname : isIdentifier field.name = true) (hlocated : locateField snapshot name = some field)
    (hspan : span.endLine ≤ snapshot.lines.length) :
    KeepsDepths snapshot.lines (createMethod snapshot field span config).lines span.endLine
      (methodLines field (memberIndent snapshot (some field.line) config.indentUnit) config) := by
  have hindent : ∀ c ∈ memberIndent snapshot (some field.line) config.indentUnit,
      isBlank c = true :=
    fun c hc => isBlank_of_mem_memberIndent hlocated hc
  -- no line is replaced: the index is behind the lines before the place
  have hkept := keepsDepths_of_isClosed span.endLine [] hspan (by simp)
    (isClosed_methodLines_of_braceDelta hconfig hindent hname
      (braceDelta_declaredType_of_locateField hlocated))
  rwa [List.set_eq_of_length_le (List.length_take_le _ _), ← List.append_assoc] at hkept

/-- A merge leaves the depths alone. -/
theorem exists_keepsDepths_of_merge {snapshot : Snapshot} {span : ClassSpan}
    {config : Configuration} {method : InjectionMethod} {field : FieldReference} {merged : Merged}
    (hconfig : config.IsSound) (hname : isIdentifier field.name = true)
    (htype : braceDelta field.declaredType = 0)
    (hfound : findInjectionMethodIn snapshot span config = .ok (some method))
    (hmerge : merge snapshot method field config = .ok merged) :
    ∃ place added, KeepsDepths snapshot.lines merged.snapshot.lines place added := by
  obtain ⟨before, signature, body, close, after, hcut⟩ :=
    exists_methodLines_of_findInjectionMethodBetween hfound
  obtain ⟨updated, hupdated, heq⟩ := exists_updated_of_merge hcut hmerge
  have hlines : snapshot.lines = (before ++ signature :: body) ++ close :: after := by
    simp [hcut.lines_eq]
  have hplace : (before ++ signature :: body).length ≤ snapshot.lines.length := by simp [hlines]
  have hline : ∀ old, (snapshot.lines.take (before ++ signature :: body).length)[before.length]? =
      some old → braceDelta updated = braceDelta old := by
    intro old hold
    rw [hlines, List.take_left, getElem?_append_cons_length] at hold
    rw [← Option.some.inj hold]
    exact (keepsSignature_updatedSignature? hconfig hname htype hupdated).braces
  have hedited : merged.snapshot.lines =
      (snapshot.lines.take (before ++ signature :: body).length).set before.length updated ++
        (addedLines snapshot method field config ++
          snapshot.lines.drop (before ++ signature :: body).length) := by
    rw [heq, hlines, List.take_left, List.drop_left, List.set_append_right _ _ le_rfl, Nat.sub_self]
    simp
  exact ⟨_, _, hedited ▸ keepsDepths_of_isClosed before.length updated hplace hline
    (isClosed_addedLines_of_isIdentifier hconfig hname)⟩

/-- An injection that is available keeps the brace structure of the document: in front of every line
that was there, the depth is the same before and after it; the lines that are put in never go below
the depth of their place; and the document is as balanced as it was. -/
theorem inject_keepsDepths {injector : Injector} {text name : Text}
    (hbackend : injector.backend = .lines) (hflaw : injector.config.flaw? = none)
    (hname : isIdentifier name = true) (havailable : (injector.plan text name).isAvailable = true) :
    ∃ edit place added,
      injector.prepare (.ofText text) name = .ok edit ∧
      injector.inject text name = ⟨edit.plan, edit.snapshot.toText, some edit.summary⟩ ∧
      KeepsDepths (Snapshot.ofText text).lines edit.snapshot.lines place added := by
  have hconfig := Configuration.flaw?_eq_none_iff.mp hflaw
  obtain ⟨edit, hprepare⟩ := Injector.isAvailable_plan_iff.mp havailable
  obtain ⟨location, hlocated, hedit⟩ := Injector.exists_of_prepare hprepare
  rw [hbackend, trim_identifier hname] at hlocated
  obtain ⟨hfield, hspan, hfound⟩ := locateInLines_eq_ok_iff.mp hlocated
  obtain ⟨-, -, hend, -, -⟩ := findClassSpan_eq_ok_iff.mp hspan
  have hfieldName : isIdentifier location.field.name = true := by rwa [name_of_locateField hfield]
  have htype := braceDelta_declaredType_of_locateField hfield
  rcases hedit with ⟨-, rfl⟩ | ⟨method, merged, hmethod, -, hmerge, rfl⟩
  · exact ⟨_, _, _, hprepare, Injector.inject_of_prepare hprepare,
      keepsDepths_createMethod hconfig hfieldName hfield (Nat.le_of_lt (lt_size_of_blockEnd hend))⟩
  · rw [hmethod] at hfound
    obtain ⟨place, added, hkept⟩ :=
    exists_keepsDepths_of_merge hconfig hfieldName htype hfound hmerge
    exact ⟨_, place, added, hprepare, Injector.inject_of_prepare hprepare, hkept⟩

/-- A class with a method whose braces stand behind its signature, after a brace that closes
nothing. -/
def strayBraceDocument : Text :=
  ("\x7d\nclass A : MonoBehaviour \x7b\nprivate List<int> _foo;\n[Inject]\n" ++
    "void InjectDependencies() \x7b\n\x7d\n\x7d").toList

theorem strayBraceDocument_keepsDepths :
    Configuration.standard.flaw? = none ∧ isIdentifier "_foo".toList = true ∧
      Injector.standard.plan strayBraceDocument "_foo".toList = .update ∧
      ∃ edit place added,
        Injector.standard.prepare (.ofText strayBraceDocument) "_foo".toList = .ok edit ∧
        KeepsDepths (Snapshot.ofText strayBraceDocument).lines edit.snapshot.lines place added ∧
        totalDelta edit.snapshot.lines = -1 := by
  have hflaw : Configuration.standard.flaw? = none := by decide +kernel
  have hname : isIdentifier "_foo".toList = true := by decide +kernel
  have hplan : Injector.standard.plan strayBraceDocument "_foo".toList = .update := by
    decide +kernel
  obtain ⟨edit, place, added, hprepare, -, hkept⟩ :=
    inject_keepsDepths rfl hflaw hname (hplan ▸ rfl : (Injector.standard.plan strayBraceDocument
      "_foo".toList).isAvailable = true)
  exact ⟨hflaw, hname, hplan, edit, place, added, hprepare, hkept,
    hkept.total.trans (by decide +kernel)⟩

end FieldInjection
