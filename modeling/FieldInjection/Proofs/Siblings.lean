import FieldInjection.Proofs.Creation
import FieldInjection.Proofs.Locality
import FieldInjection.Proofs.Owners
import FieldInjection.Proofs.Shifting

/-!
# Creating methods in two classes

Two classes of one document get their injection methods in either order.  The method of the upper
class moves the lower one down by six lines; the lower class goes on as before, and nothing in the
new lines is taken for a declaration of its field.  The method of the lower class is behind the
upper one, where nothing is looked at.  So both edits put the same lines at the same places, and the
lines that are read back in between differ from the first ones in a carriage return at the very end
at most, for either order.

## Main Definitions

* `ClassSpan.Covers`: the lines of a class body, with those of its braces.
* `headerLine?`: the line from which the class around a field is declared.

## Main Statements

* `locateInLines_insert_behind`, `locateInLines_insert_before`: a location in a document with new
  lines behind the class, or before its header.
* `inject_create_comm`: both orders give the same text.
-/

namespace FieldInjection

/-- Whether a line is one of a class body, those of the braces included. -/
def ClassSpan.Covers (span : ClassSpan) (line : Nat) : Prop :=
  span.startLine ≤ line ∧ line ≤ span.endLine

/-- The line from which the nearest eligible class above a line is declared. -/
def headerLine? (snapshot : Snapshot) (baseType : Text) (fieldLine : Nat) : Option Nat :=
  lastUpTo (isEligibleAt baseType snapshot.lines · fieldLine) fieldLine

/-! ## New lines in a document that is read back -/

/-- Lines are put in at two places in either order. -/
theorem Snapshot.insertLines_comm {snapshot : Snapshot} {first second : Nat} (hle : first ≤ second)
    (hsecond : second ≤ snapshot.size) (added more : List Text) :
    (snapshot.insertLines first added).insertLines (second + added.length) more =
      (snapshot.insertLines second more).insertLines first added := by
  -- the two places cut the document into three parts
  obtain ⟨gap, rfl⟩ := Nat.exists_eq_add_of_le hle
  obtain ⟨front, middle, rest, hlines, hfront, hmiddle⟩ : ∃ front middle rest,
      snapshot.lines = front ++ (middle ++ rest) ∧ front.length = first ∧ middle.length = gap := by
    refine ⟨snapshot.lines.take first, (snapshot.lines.drop first).take gap,
      (snapshot.lines.drop first).drop gap, ?_, ?_, ?_⟩
    · rw [List.take_append_drop, List.take_append_drop]
    · exact List.length_take_of_le (Nat.le_trans hle hsecond)
    · refine List.length_take_of_le ?_
      rw [Snapshot.size] at hsecond
      rw [List.length_drop]
      omega
  have hupper : snapshot.insertLines first added =
      ⟨(front ++ (added ++ middle)) ++ rest, snapshot.ending⟩ := by
    rw [insertLines, hlines, ← hfront, List.take_left, List.drop_left]
    simp
  have hlower : snapshot.insertLines (first + gap) more =
      ⟨front ++ (middle ++ (more ++ rest)), snapshot.ending⟩ := by
    rw [insertLines, hlines, ← List.append_assoc, ← hfront, ← hmiddle, ← List.length_append,
      List.take_left, List.drop_left]
    simp
  have hplace : first + gap + added.length = (front ++ (added ++ middle)).length := by
    simp only [List.length_append]
    omega
  rw [hupper, hlower, insertLines, insertLines, hplace, List.take_left, List.drop_left, ← hfront,
    List.take_left, List.drop_left]
  simp

section Reread

variable {snapshot : Snapshot} {index : Nat} (hindex : index < snapshot.size) (added : List Text)

include hindex

theorem take_lines_insertLines {count : Nat} (hcount : count ≤ index) :
    (snapshot.reread.insertLines index added).lines.take count = snapshot.lines.take count := by
  have hlength : (snapshot.reread.lines.take index).length = index := by
    rw [Snapshot.take_lines_reread hindex]
    exact List.length_take_of_le (Nat.le_of_lt hindex)
  rw [Snapshot.insertLines, List.append_assoc, List.take_append_of_le_length (by omega),
    List.take_take, Nat.min_eq_left hcount, Snapshot.take_lines_reread (by omega)]

/-- The lines of the document go on behind the new ones. -/
theorem drop_lines_insertLines {line : Nat} (hline : index ≤ line) :
    (snapshot.reread.insertLines index added).lines.drop (line + added.length) =
      snapshot.reread.lines.drop line := by
  obtain ⟨gap, rfl⟩ := Nat.exists_eq_add_of_le hline
  have hlength : (snapshot.reread.lines.take index ++ added).length = index + added.length := by
    rw [Snapshot.take_lines_reread hindex, List.length_append,
      List.length_take_of_le (Nat.le_of_lt hindex)]
  rw [Snapshot.insertLines, Nat.add_right_comm, ← hlength, ← List.drop_drop, List.drop_left,
    List.drop_drop]

/-- A line that is not the last of the document is found behind the new lines. -/
theorem getElem?_lines_insertLines {line : Nat} (hline : index ≤ line)
    (hlt : line + 1 < snapshot.size) :
    (snapshot.reread.insertLines index added).lines[line + added.length]? =
      snapshot.lines[line]? := by
  have hhead := congrArg List.head? (drop_lines_insertLines hindex added hline)
  rw [List.head?_drop, List.head?_drop] at hhead
  have htake := congrArg (fun lines : List Text => lines[line]?) (Snapshot.take_lines_reread hlt)
  simp only [List.getElem?_take_of_lt (Nat.lt_succ_self line)] at htake
  rw [hhead, htake]

theorem goesOnAs_insertLines :
    GoesOnAs snapshot (snapshot.reread.insertLines index added) index added.length := by
  rw [GoesOnAs, drop_lines_insertLines hindex added le_rfl, List.map_drop, List.map_drop,
    Snapshot.map_lines_reread trim_dropReturn]

/-- A location does not change with new lines behind the class. -/
theorem locateInLines_insert_behind {config : Configuration} {name : Text} {location : Location}
    (hbehind : location.span.endLine < index)
    (hlocated : locateInLines snapshot name config = .ok location) :
    locateInLines (snapshot.reread.insertLines index added) name config = .ok location := by
  obtain ⟨hfield, hspan, hmethod⟩ := locateInLines_eq_ok_iff.mp hlocated
  obtain ⟨-, -, hend, -, -⟩ := findClassSpan_eq_ok_iff.mp hspan
  have hlines := take_lines_insertLines hindex added (Nat.succ_le_of_lt hbehind)
  obtain ⟨hfield', hspan'⟩ := field_and_class_of_take_eq hlines hfield hspan
  refine locateInLines_eq_ok_iff.mpr ⟨hfield', hspan', ?_⟩
  rw [findInjectionMethodIn_of_take_eq hlines hend, hmethod]

/-- A location moves by the number of new lines before the header of the class, if these declare no
field of the name. -/
theorem locateInLines_insert_before {config : Configuration} (hconfig : config.IsSound)
    {name : Text} {field : FieldReference} {span : ClassSpan} {declaration offset : Nat}
    (hheader : HeaderAt snapshot field.line config.baseType declaration offset)
    (hbehind : index < declaration) (hbefore : index < field.line)
    (hadded : ∀ line ∈ added, declaredTypeOn? name line.trim = none)
    (hlocated : locateInLines snapshot name config = .ok ⟨field, span, none⟩) :
    locateInLines (snapshot.reread.insertLines index added) name config =
      .ok ⟨{ field with line := field.line + added.length },
        ⟨span.startLine + added.length, span.endLine + added.length⟩, none⟩ := by
  refine (goesOnAs_insertLines hindex added).locateInLines_eq hconfig hheader
    (Nat.le_of_lt hbehind) ?_ hlocated
  intro line hline
  have hlength : (snapshot.lines.take index).length = index :=
    List.length_take_of_le (Nat.le_of_lt hindex)
  rw [Snapshot.insertLines, Snapshot.take_lines_reread hindex,
    List.take_left' (by rw [List.length_append, hlength])] at hline
  rcases List.mem_append.mp hline with hold | hnew
  · obtain ⟨hfield, -, -⟩ := locateInLines_eq_ok_iff.mp hlocated
    exact declaredTypeOn?_of_mem_take hfield (Nat.le_of_lt hbefore) hold
  · exact hadded line hnew

end Reread

/-! ## Two classes of one document -/

/-- No brace comes between the header of a class and its body, so the header of the lower one of two
classes is behind the opening brace of the upper one. -/
theorem startLine_lt_declaration {snapshot : Snapshot} {baseType : Text}
    {fieldLine fieldLine' : Nat} {declaration offset declaration' offset' : Nat}
    (hupper : HeaderAt snapshot fieldLine baseType declaration offset)
    (hlower : HeaderAt snapshot fieldLine' baseType declaration' offset')
    (hlt : declaration + offset < declaration' + offset') :
    declaration + offset < declaration' := by
  obtain ⟨-, -, hbrace, -⟩ := headerAt_iff.mp hupper
  obtain ⟨-, -, -, hfirst⟩ := headerAt_iff.mp hlower
  -- otherwise the brace of the upper class would be the first one behind the lower header
  by_contra hle
  exact hfirst (declaration + offset) (Nat.le_of_not_lt hle) hlt hbrace

/-- The lines of the method that is created for a field of a document. -/
def createdLines (snapshot : Snapshot) (field : FieldReference)
    (config : Configuration) : List Text :=
  methodLines field (memberIndent snapshot (some field.line) config.indentUnit) config

/-- The same method is created for a field that has moved, if its line is the same. -/
theorem createdLines_eq {snapshot other : Snapshot} {field : FieldReference} {line : Nat}
    {text : Text} (config : Configuration) (hold : snapshot.lines[field.line]? = some text)
    (hnew : other.lines[line]? = some text) :
    createdLines other { field with line := line } config = createdLines snapshot field config := by
  have hindent : memberIndent other (some line) config.indentUnit =
      memberIndent snapshot (some field.line) config.indentUnit := by
    rw [memberIndent_eq_indentation hold, memberIndent_eq_indentation hnew]
  rw [createdLines, createdLines, hindent]
  rfl

/-- A field that is located in a class without an injection method, and where. -/
structure CreatesAt (injector : Injector) (text name : Text) (field : FieldReference)
    (span : ClassSpan) : Prop where
  /-- The name is an identifier. -/
  identifier : isIdentifier name = true
  /-- The field can be injected. -/
  injectable : field.IsInjectable
  /-- The field is located in a class without an injection method. -/
  located : locateInLines (.ofText text) name injector.config = .ok ⟨field, span, none⟩

namespace CreatesAt

variable {injector : Injector} {text name : Text} {field : FieldReference} {span : ClassSpan}
    (h : CreatesAt injector text name field span)

include h

theorem locateField_eq : locateField (.ofText text) name = some field :=
  (locateInLines_eq_ok_iff.mp h.located).1

theorem endLine_lt : span.endLine < (Snapshot.ofText text).size := by
  obtain ⟨-, hspan, -⟩ := locateInLines_eq_ok_iff.mp h.located
  obtain ⟨-, -, hend, -, -⟩ := findClassSpan_eq_ok_iff.mp hspan
  exact lt_size_of_blockEnd hend

/-- The field lies between the braces of the class. -/
theorem contains : span.startLine < field.line ∧ field.line < span.endLine := by
  obtain ⟨-, hspan, -⟩ := locateInLines_eq_ok_iff.mp h.located
  obtain ⟨-, -, -, hcontains, -⟩ := findClassSpan_eq_ok_iff.mp hspan
  exact ClassSpan.contains_iff.mp hcontains

theorem startLine_le : span.startLine ≤ span.endLine :=
  Nat.le_of_lt (Nat.lt_trans h.contains.1 h.contains.2)

/-- The header of the class, and the distance of its first brace. -/
theorem exists_headerAt : ∃ declaration offset, span.startLine = declaration + offset ∧
    HeaderAt (.ofText text) field.line injector.config.baseType declaration offset := by
  obtain ⟨-, hspan, -⟩ := locateInLines_eq_ok_iff.mp h.located
  obtain ⟨-, ⟨declaration, offset, hheader, hstart⟩, -, -, -⟩ := findClassSpan_eq_ok_iff.mp hspan
  exact ⟨declaration, offset, hstart, hheader⟩

variable (hbackend : injector.backend = .lines)

include hbackend

theorem inject_eq :
    injector.inject text name =
      ⟨.create, ((Snapshot.ofText text).insertLines span.endLine
          (createdLines (.ofText text) field injector.config)).toText,
        some ⟨field.name, field.declaredType, parameterName field.name, .created⟩⟩ :=
  Injector.inject_of_no_method hbackend h.identifier h.located

theorem plan_eq : injector.plan text name = .create := by
  rw [Injector.plan_eq_inject_plan, h.inject_eq hbackend]

/-- The document after the method was created, read back. -/
theorem ofText_inject (hconfig : injector.config.IsSound)
    (hmarker : '\n' ∉ injector.config.marker) :
    Snapshot.ofText (injector.inject text name).text =
      (Snapshot.ofText text).reread.insertLines span.endLine
        (createdLines (.ofText text) field injector.config) := by
  rw [h.inject_eq hbackend]
  exact ofText_toText_createMethod hconfig (fun hc => hmarker (Text.mem_of_mem_trim hc))
    h.endLine_lt h.locateField_eq

end CreatesAt

/-- A plan to create a method comes from a field in a class without one. -/
theorem createsAt_of_plan {injector : Injector} {text name : Text} {location : Location}
    (hbackend : injector.backend = .lines) (hname : isIdentifier name = true)
    (hparameter : parameterName name ≠ []) (hplan : injector.plan text name = .create)
    (hlocated : locateInLines (.ofText text) name injector.config = .ok location) :
    CreatesAt injector text name location.field location.span := by
  rw [Injector.plan_eq_inject_plan] at hplan
  obtain ⟨field, span, hcreated⟩ := Injector.exists_of_inject_plan_create hbackend hname hplan
  obtain rfl : location = ⟨field, span, none⟩ := Except.ok.inj (hlocated.symm.trans hcreated)
  obtain ⟨hfield, -, -⟩ := locateInLines_eq_ok_iff.mp hlocated
  exact ⟨hname, isInjectable_of_locateField hfield hname hparameter, hlocated⟩

section Order

variable {injector : Injector} {text upper lower : Text} {field field' : FieldReference}
    {span span' : ClassSpan} (hupper : CreatesAt injector text upper field span)
    (hlower : CreatesAt injector text lower field' span')

include hupper hlower

/-- If the header of the lower class is outside the upper one, it is behind it. -/
theorem endLine_lt_declaration (hlt : span.startLine < span'.startLine)
    (hheader : ∀ line, headerLine? (.ofText text) injector.config.baseType field'.line = some line →
      ¬ span.Covers line) :
    ∃ declaration offset, span'.startLine = declaration + offset ∧ span.endLine < declaration ∧
      HeaderAt (.ofText text) field'.line injector.config.baseType declaration offset := by
  obtain ⟨_, _, hstart, hat⟩ := hupper.exists_headerAt
  obtain ⟨declaration, offset, hstart', hat'⟩ := hlower.exists_headerAt
  have hbehind := startLine_lt_declaration hat hat' (by omega)
  have houtside : ¬ (span.startLine ≤ declaration ∧ declaration ≤ span.endLine) :=
    hheader declaration hat'.1
  exact ⟨declaration, offset, hstart', by omega, hat'⟩

variable (hbackend : injector.backend = .lines) (hconfig : injector.config.IsSound)
    (hmarker : '\n' ∉ injector.config.marker)

include hbackend hconfig hmarker

/-- The upper class does not change with the method of the lower one. -/
theorem createsAt_upper (hlt : span.endLine < span'.endLine) :
    CreatesAt injector (injector.inject text lower).text upper field span := by
  refine ⟨hupper.identifier, hupper.injectable, ?_⟩
  rw [hlower.ofText_inject hbackend hconfig hmarker]
  exact locateInLines_insert_behind hlower.endLine_lt _ hlt hupper.located

variable {declaration offset : Nat} (hbehind : span.endLine < declaration)
    (hstart : span'.startLine = declaration + offset)

include hbehind hstart

/-- The method of the lower class is indented like its field, which has moved with the class. -/
theorem createdLines_lower :
    createdLines (.ofText (injector.inject text upper).text) { field' with line := field'.line + 6 }
        injector.config = createdLines (.ofText text) field' injector.config := by
  obtain ⟨line, hold, -⟩ := exists_line_of_locateField hlower.locateField_eq
  have hcontains := hlower.contains
  have hsize := hlower.endLine_lt
  refine createdLines_eq injector.config hold ?_
  rw [hupper.ofText_inject hbackend hconfig hmarker, ← hold]
  exact getElem?_lines_insertLines hupper.endLine_lt _ (by omega) (by omega)

/-- The method of the upper class is indented like its field, which is where it was. -/
theorem createdLines_upper :
    createdLines (.ofText (injector.inject text lower).text) field injector.config =
      createdLines (.ofText text) field injector.config := by
  obtain ⟨line, hold, -⟩ := exists_line_of_locateField hupper.locateField_eq
  have hcontains := hupper.contains
  have hcontains' := hlower.contains
  refine createdLines_eq injector.config hold ?_
  rw [hlower.ofText_inject hbackend hconfig hmarker, ← hold]
  exact getElem?_eq_of_take_eq (take_lines_insertLines hlower.endLine_lt _ (by omega)) le_rfl

variable (hheader : HeaderAt (.ofText text) field'.line injector.config.baseType declaration offset)

include hheader

/-- The lower class moves down by the lines of the method of the upper one. -/
theorem createsAt_lower :
    CreatesAt injector (injector.inject text upper).text lower { field' with line :=
      field'.line + 6 }
      ⟨span'.startLine + 6, span'.endLine + 6⟩ := by
  have hline := hlower.contains
  refine ⟨hlower.identifier, ⟨hlower.injectable.name, hlower.injectable.parameter_ne_nil,
    hlower.injectable.allows_of_mem⟩, ?_⟩
  rw [hupper.ofText_inject hbackend hconfig hmarker]
  refine locateInLines_insert_before hupper.endLine_lt
    (createdLines (.ofText text) field injector.config) hconfig hheader hbehind (by omega) ?_
    hlower.located
  intro line hadded
  exact declaredTypeOn?_of_mem_methodLines hconfig hupper.injectable
    (fun c => isBlank_of_mem_memberIndent hupper.locateField_eq) hadded

/-- Two methods are created in either order in a class and in one whose header is behind it. -/
theorem inject_create_comm_of_lt :
    injector.plan (injector.inject text upper).text lower = .create ∧
      injector.plan (injector.inject text lower).text upper = .create ∧
      (injector.inject (injector.inject text upper).text lower).text =
        (injector.inject (injector.inject text lower).text upper).text := by
  have hcontains := hlower.contains
  have hsize := hlower.endLine_lt
  have hle : span.endLine ≤ span'.endLine := by omega
  have hlower' := createsAt_lower hupper hlower hbackend hconfig hmarker hbehind hstart hheader
  have hupper' := createsAt_upper hupper hlower hbackend hconfig hmarker (by omega)
  refine ⟨hlower'.plan_eq hbackend, hupper'.plan_eq hbackend, ?_⟩
  rw [hlower'.inject_eq hbackend, hupper'.inject_eq hbackend]
  show Snapshot.toText _ = Snapshot.toText _
  rw [createdLines_lower hupper hlower hbackend hconfig hmarker hbehind hstart,
    createdLines_upper hupper hlower hbackend hconfig hmarker hbehind hstart,
    hupper.ofText_inject hbackend hconfig hmarker, hlower.ofText_inject hbackend hconfig hmarker,
    ← Snapshot.insertLines_comm hle (by rw [Snapshot.size_reread]; omega)]
  rfl

end Order

/-- Methods are created in two classes of one document in either order: what is created first does
not keep the other from being created, and the text comes out the same.  The classes have no line in
common, and the header of neither lies in the other. -/
theorem inject_create_comm {injector : Injector} {text first second : Text}
    {location location' : Location} (hbackend : injector.backend = .lines)
    (hflaw : injector.config.flaw? = none) (hmarker : '\n' ∉ injector.config.marker)
    (hfirst : isIdentifier first = true) (hparameter : parameterName first ≠ [])
    (hsecond : isIdentifier second = true) (hparameter' : parameterName second ≠ [])
    (hplan : injector.plan text first = .create) (hplan' : injector.plan text second = .create)
    (hlocated : locateInLines (.ofText text) first injector.config = .ok location)
    (hlocated' : locateInLines (.ofText text) second injector.config = .ok location')
    (hdisjoint : ∀ line, ¬ (location.span.Covers line ∧ location'.span.Covers line))
    (hheader : ∀ line,
      headerLine? (.ofText text) injector.config.baseType location.field.line = some line →
        ¬ location'.span.Covers line)
    (hheader' : ∀ line,
      headerLine? (.ofText text) injector.config.baseType location'.field.line = some line →
        ¬ location.span.Covers line) :
    injector.plan (injector.inject text first).text second = .create ∧
      injector.plan (injector.inject text second).text first = .create ∧
      (injector.inject (injector.inject text first).text second).text =
        (injector.inject (injector.inject text second).text first).text := by
  have hconfig := Configuration.flaw?_eq_none_iff.mp hflaw
  have hcreates := createsAt_of_plan hbackend hfirst hparameter hplan hlocated
  have hcreates' := createsAt_of_plan hbackend hsecond hparameter' hplan' hlocated'
  rcases Nat.lt_trichotomy location.span.startLine location'.span.startLine with hlt | heq | hgt
  · obtain ⟨declaration, offset, hstart, hbehind, hat⟩ :=
      endLine_lt_declaration hcreates hcreates' hlt hheader'
    exact inject_create_comm_of_lt hcreates hcreates' hbackend hconfig hmarker hbehind hstart hat
  · -- two bodies that begin on one line share it
    exact absurd ⟨⟨le_rfl, hcreates.startLine_le⟩, ⟨heq.ge, heq ▸ hcreates'.startLine_le⟩⟩
      (hdisjoint location.span.startLine)
  · obtain ⟨declaration, offset, hstart, hbehind, hat⟩ :=
      endLine_lt_declaration hcreates' hcreates hgt hheader
    obtain ⟨hplanned, hplanned', htext⟩ :=
      inject_create_comm_of_lt hcreates' hcreates hbackend hconfig hmarker hbehind hstart hat
    exact ⟨hplanned', hplanned, htext.symm⟩

/-- Two classes with a field each, headers on one line and on two, and a carriage return at the very
end. -/
def siblingDocument : Text :=
  ("class A : MonoBehaviour \x7b\n  private IFoo _foo;\n\x7d\n" ++
    "class B :\n  MonoBehaviour\n\x7b\n\tprivate IBar[] m_bar;\n\x7d\r").toList

theorem siblingDocument_create_comm :
    Injector.standard.plan (Injector.standard.inject siblingDocument "_foo".toList).text
        "m_bar".toList = .create ∧
      (Injector.standard.inject (Injector.standard.inject siblingDocument "_foo".toList).text
          "m_bar".toList).text =
        (Injector.standard.inject (Injector.standard.inject siblingDocument "m_bar".toList).text
          "_foo".toList).text := by
  have hupper : locateInLines (.ofText siblingDocument) "_foo".toList Injector.standard.config =
      .ok ⟨⟨"_foo".toList, "IFoo".toList, 1⟩, ⟨0, 2⟩, none⟩ := by rfl
  have hlower : locateInLines (.ofText siblingDocument) "m_bar".toList Injector.standard.config =
      .ok ⟨⟨"m_bar".toList, "IBar[]".toList, 6⟩, ⟨5, 7⟩, none⟩ := by rfl
  have hheader : headerLine? (.ofText siblingDocument) Injector.standard.config.baseType 1 =
      some 0 := by
    rfl
  have hheader' : headerLine? (.ofText siblingDocument) Injector.standard.config.baseType 6 =
      some 3 := by
    rfl
  have hplan : Injector.standard.plan siblingDocument "_foo".toList = .create := by
    rw [Injector.plan_eq_inject_plan, Injector.inject_of_no_method rfl (by rfl) hupper]
  have hplan' : Injector.standard.plan siblingDocument "m_bar".toList = .create := by
    rw [Injector.plan_eq_inject_plan, Injector.inject_of_no_method rfl (by rfl) hlower]
  have hcomm := inject_create_comm rfl (by rfl) (by decide) (by rfl) (by decide) (by rfl)
    (by decide) hplan hplan' hupper hlower ?_ ?_ ?_
  · exact ⟨hcomm.1, hcomm.2.2⟩
  · rintro line ⟨⟨-, hline⟩, ⟨hline', -⟩⟩
    exact absurd (Nat.le_trans hline' hline) (by decide)
  · rintro line hline ⟨hcovers, -⟩
    obtain rfl : 0 = line := Option.some.inj (hheader.symm.trans hline)
    exact absurd hcovers (by decide)
  · rintro line hline ⟨-, hcovers⟩
    obtain rfl : 3 = line := Option.some.inj (hheader'.symm.trans hline)
    exact absurd hcovers (by decide)

end FieldInjection
