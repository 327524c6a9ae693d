import FieldInjection.Proofs.Locations
import FieldInjection.Proofs.Methods

/-!
# Whether the method that is found belongs to the class of the field

The class body around a field is delimited by its braces, and the search for an injection method
goes through all lines between them, whatever their depth.  So the method of a type that is declared
inside the class is taken for the method of the class itself, if it comes first.

## Main Statements

* `balance_located_method_eq_one_iff`: the method that is found is a member of the class itself
  exactly when some annotated line of the class is one and no annotated line in front of it lies
  deeper.
* `nestedDocument_method_lies_deeper`: a document in which it is not.
-/

namespace FieldInjection

/-- The line is annotated and lies between the braces of a class. -/
def AnnotatedIn (snapshot : Snapshot) (span : ClassSpan) (config : Configuration)
    (line : Nat) : Prop :=
  span.contains line = true ∧
    Annotated config.marker.trim config.methodName snapshot.lines line

/-- The line lies in the class body itself, in no block inside it. -/
def IsMemberLine (snapshot : Snapshot) (span : ClassSpan) (line : Nat) : Prop :=
  snapshot.balance span.startLine line = 1

/-- The method that is found in a class stands below its first annotated line. -/
theorem exists_first_of_findInjectionMethodIn {snapshot : Snapshot} {span : ClassSpan}
    {config : Configuration} {method : InjectionMethod}
    (h : findInjectionMethodIn snapshot span config = .ok (some method)) :
    ∃ line, method.signatureLine = line + 1 ∧ AnnotatedIn snapshot span config line ∧
      ∀ other < line, ¬ AnnotatedIn snapshot span config other := by
  obtain ⟨line, signature, hstart, hstop, hfound, -, hfirst, hread⟩ :=
    exists_of_findInjectionMethodBetween h
  refine ⟨line, ?_, ⟨?_, hfound⟩, ?_⟩
  · exact signatureLine_of_readMethod hread
  · rw [ClassSpan.contains_iff]
    omega
  · rintro other hother ⟨hcontains, hin⟩
    rw [ClassSpan.contains_iff] at hcontains
    exact hfirst other hcontains.1 hother hin

/-- The injection method found for a field stands below the first annotated line of the field's
class.  It is a member of that class exactly when the class has an annotated line of its own with
none in a nested block before it. -/
theorem balance_located_method_eq_one_iff {snapshot : Snapshot} {field : Text}
    {config : Configuration} {location : Location} {method : InjectionMethod}
    (hlocated : locateInLines snapshot field config = .ok location)
    (hmethod : location.method = some method) :
    (AnnotatedIn snapshot location.span config (method.signatureLine - 1) ∧
      ∀ other < method.signatureLine - 1, ¬ AnnotatedIn snapshot location.span config other) ∧
    (snapshot.balance location.span.startLine (method.signatureLine - 1) = 1 ↔
      ∃ line, AnnotatedIn snapshot location.span config line ∧
        IsMemberLine snapshot location.span line ∧
        ∀ other < line, AnnotatedIn snapshot location.span config other →
          IsMemberLine snapshot location.span other) := by
  obtain ⟨-, -, hsearch⟩ := locateInLines_eq_ok_iff.mp hlocated
  rw [hmethod] at hsearch
  obtain ⟨first, hsignature, hfound, hfirst⟩ := exists_first_of_findInjectionMethodIn hsearch
  rw [hsignature, Nat.add_sub_cancel]
  refine ⟨⟨hfound, hfirst⟩, ?_, ?_⟩
  · intro hmember
    exact ⟨first, hfound, hmember, fun other hother hin => absurd hin (hfirst other hother)⟩
  · rintro ⟨line, hin, hmember, hbefore⟩
    rcases Nat.lt_trichotomy line first with hlt | rfl | hgt
    · exact absurd hin (hfirst line hlt)
    · exact hmember
    · exact hbefore first hgt hfound

/-- A class with one field and, inside it, another class with an injection method. -/
def nestedDocument : Snapshot :=
  .ofLines ["public class A : MonoBehaviour".toList,
    "\x7b".toList,
    "    private IFoo _foo;".toList,
    "    private class B".toList,
    "    \x7b".toList,
    "        [Inject]".toList,
    "        private void InjectDependencies(IBar bar)".toList,
    "        \x7b".toList,
    "        \x7d".toList,
    "    \x7d".toList,
    "\x7d".toList,
    []]

/-- What is located for the field is the method of the class inside. -/
def nestedLocation : Location :=
  ⟨⟨"_foo".toList, "IFoo".toList, 2⟩, ⟨1, 10⟩, some ⟨6, 7, 9, ["bar".toList]⟩⟩

theorem locateInLines_nestedDocument :
    locateInLines nestedDocument "_foo".toList .standard = .ok nestedLocation := by
  rfl

theorem nestedDocument_located_method_iff :
    locateInLines nestedDocument "_foo".toList .standard = .ok nestedLocation ∧
      (nestedDocument.balance 1 5 = 1 ↔
        ∃ line, AnnotatedIn nestedDocument ⟨1, 10⟩ .standard line ∧
          IsMemberLine nestedDocument ⟨1, 10⟩ line ∧
          ∀ other < line, AnnotatedIn nestedDocument ⟨1, 10⟩ .standard other →
            IsMemberLine nestedDocument ⟨1, 10⟩ other) :=
  ⟨locateInLines_nestedDocument,
    (balance_located_method_eq_one_iff locateInLines_nestedDocument rfl).2⟩

/-- The method found for a field need not be a member of the field's class. -/
theorem nestedDocument_method_lies_deeper :
    Configuration.standard.flaw? = none ∧
      locateInLines nestedDocument "_foo".toList .standard =
        .ok ⟨⟨"_foo".toList, "IFoo".toList, 2⟩, ⟨1, 10⟩, some ⟨6, 7, 9, ["bar".toList]⟩⟩ ∧
      nestedDocument.balance 1 (6 - 1) ≠ 1 :=
  ⟨by decide +kernel, locateInLines_nestedDocument, by decide +kernel⟩

end FieldInjection
