import FieldInjection.Proofs.Creation
import FieldInjection.Proofs.Membership
import FieldInjection.Proofs.Spans

/-!
# Where a new method comes to stand

A new injection method is put in front of the line on which the class closes.  That line closes
whatever is still open there, the class and every block inside it.  If it closes nothing but the
class, the new method is a member of the class; if it closes other blocks as well, the method lands
inside the innermost of them.

## Main Statements

* `balance_before_blockEnd`: the depth in front of the line that closes a block.
* `balance_insertLines`, `marker_createMethod`: the depth of lines that are put in, and of a new
  marker.
* `created_method_isMember_iff`: which of the methods that are created are members of their class.
* `doubleClosingDocument_not_isMember`: a document in which it is not.
-/

namespace FieldInjection

/-- In front of the line that closes a block, as much is open as that line closes. -/
theorem balance_before_blockEnd {snapshot : Snapshot} {start stop : Nat} {close : Text}
    (hend : snapshot.blockEnd start = some stop) (hclose : snapshot.lines[stop]? = some close) :
    start < stop ∧ 0 < snapshot.balance start (stop - 1) ∧
      snapshot.balance start (stop - 1) = -braceDelta close := by
  obtain ⟨first, hopens⟩ := blockEnd_eq_some_iff.mp hend
  have hstart := hopens.start_le
  have hfirst := hopens.first_lt
  obtain ⟨last, rfl⟩ : ∃ last, stop = last + 1 := ⟨stop - 1, by omega⟩
  rw [Nat.add_sub_cancel]
  have hsum := hopens.closed
  rw [balance_eq_add (by omega : start ≤ last) (Nat.lt_succ_self last), balance_self hclose] at hsum
  exact ⟨by omega, hopens.opened last (by omega) (Nat.lt_succ_self last), by omega⟩

/-- Among lines that are put in, the depth is that of the place and what the lines up to there have
opened. -/
theorem balance_insertLines {snapshot : Snapshot} {start place count : Nat} {added : List Text}
    (hstart : start < place) (hplace : place ≤ snapshot.size) (hcount : count < added.length) :
    (snapshot.insertLines place added).balance start (place + count) =
      snapshot.balance start (place - 1) + totalDelta (added.take (count + 1)) := by
  obtain ⟨last, rfl⟩ : ∃ last, place = last + 1 := ⟨place - 1, by omega⟩
  have hlength : (snapshot.lines.take (last + 1)).length = last + 1 := List.length_take_of_le hplace
  have hfront : (snapshot.insertLines (last + 1) added).lines.take (last + 1) =
      snapshot.lines.take (last + 1) := by
    rw [Snapshot.insertLines, List.append_assoc,
      List.take_append_of_le_length (Nat.le_of_eq hlength.symm), List.take_take, Nat.min_self]
  have hbehind : (snapshot.insertLines (last + 1) added).lines.drop (last + 1) =
      added ++ snapshot.lines.drop (last + 1) := by
    rw [Snapshot.insertLines, List.append_assoc]
    exact List.drop_left' hlength
  rw [Nat.add_sub_cancel, balance_eq_add (by omega : start ≤ last)
    (by omega : last < last + 1 + count), balance_of_take_eq hfront (by omega) le_rfl,
    Snapshot.balance, Snapshot.balance, hbehind, Nat.add_sub_cancel_left,
    List.take_append_of_le_length hcount]

/-- The marker of a new method stands on the second of the new lines, as deep as the place in front
of the closing line of the class. -/
theorem marker_createMethod {snapshot : Snapshot} {name : Text} {field : FieldReference}
    {span : ClassSpan} {config : Configuration} {close : Text} (hconfig : config.IsSound)
    (hlocated : locateField snapshot name = some field)
    (hend : snapshot.blockEnd span.startLine = some span.endLine)
    (hclose : snapshot.lines[span.endLine]? = some close) :
    ((createMethod snapshot field span config).line? (span.endLine + 1)).map Text.trim =
        some config.marker.trim ∧
      (createMethod snapshot field span config).balance span.startLine (span.endLine + 1) =
        -braceDelta close := by
  obtain ⟨hstart, -, hdepth⟩ := balance_before_blockEnd hend hclose
  have hsize : span.endLine ≤ snapshot.size := Nat.le_of_lt (lt_size_of_blockEnd hend)
  have hindent : ∀ c ∈ memberIndent snapshot (some field.line) config.indentUnit,
      isBlank c = true :=
    fun c hc => isBlank_of_mem_memberIndent hlocated hc
  refine ⟨?_, ?_⟩
  · have hlength : (snapshot.lines.take span.endLine).length = span.endLine :=
      List.length_take_of_le hsize
    rw [createMethod, Snapshot.line?, Snapshot.insertLines, List.append_assoc,
      List.getElem?_append_right (by omega), hlength, Nat.add_sub_cancel_left, methodLines_eq]
    simp [Text.trim_blank_append hindent, Text.trim_trim]
  · -- the blank line and the marker have no braces
    have hfront : totalDelta ((methodLines field (memberIndent snapshot (some field.line)
        config.indentUnit) config).take 2) = 0 := by
      rw [methodLines_eq]
      simp only [List.take_succ_cons, List.take_zero, totalDelta_cons, totalDelta_nil,
        braceDelta_append, braceDelta_of_blank hindent, hconfig.braceDelta_marker_trim]
      rfl
    rw [createMethod, balance_insertLines hstart hsize (by simp [methodLines_eq]),
      hfront, hdepth, add_zero]

/-- When a method is created, the depth at the place where it is put in is what the closing line of
the class closes.  The marker of the new method is at that depth, too.  So the new method is a
member of the class itself exactly when that line closes one brace more than it opens. -/
theorem created_method_isMember_iff {injector : Injector} {text name : Text}
    (hbackend : injector.backend = .lines) (hflaw : injector.config.flaw? = none)
    (hplan : (injector.inject text name).plan = .create) :
    ∃ location edit close,
      locateInLines (.ofText text) name.trim injector.config = .ok location ∧
      location.method = none ∧
      injector.prepare (.ofText text) name = .ok edit ∧
      (injector.inject text name).text = edit.snapshot.toText ∧
      (Snapshot.ofText text).lines[location.span.endLine]? = some close ∧
      (Snapshot.ofText text).balance location.span.startLine (location.span.endLine - 1) =
        -braceDelta close ∧
      ((Snapshot.ofText text).balance location.span.startLine (location.span.endLine - 1) = 1 ↔
        braceDelta close = -1) ∧
      (edit.snapshot.line? (location.span.endLine + 1)).map Text.trim =
        some injector.config.marker.trim ∧
      (IsMemberLine edit.snapshot location.span (location.span.endLine + 1) ↔
        braceDelta close = -1) := by
  have hconfig := Configuration.flaw?_eq_none_iff.mp hflaw
  have havailable : (injector.plan text name).isAvailable = true := by
    rw [Injector.plan_eq_inject_plan, hplan]
    rfl
  obtain ⟨edit, hprepare⟩ := Injector.isAvailable_plan_iff.mp havailable
  have hinject := Injector.inject_of_prepare hprepare
  rw [hinject] at hplan
  obtain ⟨location, hlocated, ⟨hnone, rfl⟩ | ⟨_, _, -, -, -, rfl⟩⟩ :=
    Injector.exists_of_prepare hprepare
  · rw [hbackend] at hlocated
    obtain ⟨hfield, hspan, -⟩ := locateInLines_eq_ok_iff.mp hlocated
    obtain ⟨-, -, hend, -, -⟩ := findClassSpan_eq_ok_iff.mp hspan
    have hclose := List.getElem?_eq_getElem (lt_size_of_blockEnd hend)
    obtain ⟨-, -, hdepth⟩ := balance_before_blockEnd hend hclose
    obtain ⟨hmarker, hmarkerDepth⟩ := marker_createMethod hconfig hfield hend hclose
    refine ⟨location, _, _, hlocated, hnone, hprepare, by rw [hinject], hclose,
      hdepth, ?_, hmarker, ?_⟩
    · rw [hdepth]
      omega
    · rw [IsMemberLine, hmarkerDepth]
      omega
  · exact absurd hplan (by simp)

/-- A class whose body opens on the line of its header, with an attribute above its field. -/
def attributeDocument : Text :=
  "class A : MonoBehaviour \x7b\n    [SerializeField]\n    private IFoo _foo;\n\x7d".toList

theorem attributeDocument_isMember :
    Configuration.standard.flaw? = none ∧
      (Injector.standard.inject attributeDocument "_foo".toList).plan = .create ∧
      ∃ location edit,
        locateInLines (.ofText attributeDocument) "_foo".toList .standard = .ok location ∧
        Injector.standard.prepare (.ofText attributeDocument) "_foo".toList = .ok edit ∧
        IsMemberLine edit.snapshot location.span (location.span.endLine + 1) := by
  have hflaw : Configuration.standard.flaw? = none := by decide +kernel
  have hplan : (Injector.standard.inject attributeDocument "_foo".toList).plan = .create := by
    decide +kernel
  obtain ⟨location, edit, close, hlocated, -, hprepare, -, hclose, -, -, -, hmember⟩ :=
    created_method_isMember_iff rfl hflaw hplan
  have hspan : locateInLines (.ofText attributeDocument) "_foo".toList .standard =
      .ok ⟨⟨"_foo".toList, "IFoo".toList, 2⟩, ⟨0, 3⟩, none⟩ := by rfl
  obtain rfl : location = ⟨⟨"_foo".toList, "IFoo".toList, 2⟩, ⟨0, 3⟩, none⟩ :=
    Except.ok.inj (hlocated.symm.trans hspan)
  have hline : (Snapshot.ofText attributeDocument).lines[3]? = some "\x7d".toList := by rfl
  obtain rfl := Option.some.inj (hclose.symm.trans hline)
  exact ⟨hflaw, hplan, _, edit, hspan, hprepare, hmember.mpr (by decide)⟩

/-- A class that closes on one line with the last method in it. -/
def doubleClosingDocument : Text :=
  ("class A : MonoBehaviour\n\x7b\n    private IFoo _foo;\n    void Awake()\n    \x7b\n" ++
    "        Run(); \x7d \x7d\n").toList

/-- A method that is created need not be a member of its class: here it lands in the body of the
last method. -/
theorem doubleClosingDocument_not_isMember :
    (Injector.standard.inject doubleClosingDocument "_foo".toList).plan = .create ∧
      locateInLines (.ofText doubleClosingDocument) "_foo".toList .standard =
        .ok ⟨⟨"_foo".toList, "IFoo".toList, 2⟩, ⟨1, 5⟩, none⟩ ∧
      (Snapshot.ofText doubleClosingDocument).balance 1 4 = 2 ∧
      (Snapshot.ofText (Injector.standard.inject doubleClosingDocument
        "_foo".toList).text).lines.take 7 =
        ["class A : MonoBehaviour".toList, "\x7b".toList, "    private IFoo _foo;".toList,
          "    void Awake()".toList, "    \x7b".toList, [], "    [Inject]".toList] := by
  refine ⟨by decide +kernel, by rfl, by decide +kernel, by decide +kernel⟩

end FieldInjection
