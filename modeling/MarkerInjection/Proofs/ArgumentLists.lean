-- Argument lists: members apart by commas. Each is read up to its comma, so the
-- arguments are those of the members, in their order.
import MarkerInjection.Proofs.CarryingReaders
import MarkerInjection.Proofs.Expansions

namespace MarkerInjection.Source

/-! ## Members where they stand -/

/-- The tokens are read as this argument wherever they stand as a member. -/
def ReadsAs (g : Grammar) (ts : List Token) (a : Argument) : Prop :=
  ∀ c, EndsMember c → argumentRule g ⟨ts ++ c, none⟩ = .ok (a, ⟨c, none⟩)

theorem ne_nil_of_readsAs {g : Grammar} {ts : List Token} {a : Argument} (h : ReadsAs g ts a) :
    ts ≠ [] := by
  rintro rfl
  have hread := h [] .nothing
  cases hread

/-! ## Members and commas -/

/-- Members with the commas behind them, which may be joined to what follows. The last comma may
be missing. -/
def apart : List (List Token × Bool) → Bool → List Token
  | [], _ => []
  | [(ts, joint)], trailing => ts ++ if trailing then [.punct ',' joint] else []
  | (ts, joint) :: m :: ms, trailing => ts ++ .punct ',' joint :: apart (m :: ms) trailing

/-- One step through a list: a member, with the comma behind it if it has one. -/
def listStep {α : Type} (member : Reader α) : Reader (List (α × Bool) × Bool) := do
  if ← next List.isEmpty then return ([], false)
  let x ← member
  if ← next List.isEmpty then return ([(x, false)], false)
  let _ ← takeSign ","
  return ([(x, true)], true)

section Steps

variable {α : Type} {member : Reader α} {ts rest : List Token} {l l' : Option Delimiter} {x : α}

theorem listStep_nil (l : Option Delimiter) :
    listStep member ⟨[], l⟩ = .ok (([], false), ⟨[], l⟩) := rfl

theorem listStep_of_read (hne : ts ≠ []) (hread : member ⟨ts, l⟩ = .ok (x, ⟨rest, l'⟩)) :
    listStep member ⟨ts, l⟩ = (do
      if ← next List.isEmpty then return ([(x, false)], false)
      let _ ← takeSign ","
      return ([(x, true)], true) : Reader (List (α × Bool) × Bool)) ⟨rest, l'⟩ := by
  cases ts with
  | nil => exact absurd rfl hne
  | cons t ts =>
    have hnext : next List.isEmpty ⟨t :: ts, l⟩ = .ok (false, ⟨t :: ts, l⟩) := rfl
    unfold listStep
    rw [run_bind_of_ok hnext]
    exact run_bind_of_ok hread

theorem listStep_last (hne : ts ≠ []) (hread : member ⟨ts, l⟩ = .ok (x, ⟨[], l'⟩)) :
    listStep member ⟨ts, l⟩ = .ok (([(x, false)], false), ⟨[], l'⟩) := by
  rw [listStep_of_read hne hread]
  rfl

theorem listStep_comma (hne : ts ≠ []) {joint : Bool}
    (hread : member ⟨ts, l⟩ = .ok (x, ⟨.punct ',' joint :: rest, l'⟩)) :
    listStep member ⟨ts, l⟩ = .ok (([(x, true)], true), ⟨rest, l'⟩) := by
  rw [listStep_of_read hne hread]
  rfl

end Steps

/-- Every member is read in its turn. There are enough steps: one for each member, and one that
finds nothing behind a last comma. -/
theorem repeatAlong_apart {g : Grammar} {ms : List (List Token × Bool)} {args : List Argument}
    (hreads : List.Forall₂ (fun m a => ReadsAs g m.1 a) ms args) (trailing : Bool)
    {fuel : List Token} (hfuel : ms.length ≤ fuel.length) :
    ∃ found, repeatAlong (listStep (argumentRule g)) fuel ⟨apart ms trailing, none⟩ =
      .ok (found, ⟨[], none⟩) ∧ found.flatten.map (·.1) = args := by
  induction hreads generalizing fuel with
  | nil => exact ⟨[[]], repeatAlong_stop (listStep_nil none) fuel, rfl⟩
  | @cons m a ms args hread hmore ih =>
    obtain ⟨ts, joint⟩ := m
    have hne := ne_nil_of_readsAs hread
    cases fuel with
    | nil => simp at hfuel
    | cons t fuel =>
      rw [List.length_cons, List.length_cons, Nat.add_le_add_iff_right] at hfuel
      -- The last member may do without its comma.
      by_cases hlast : ms = [] ∧ trailing = false
      · obtain ⟨rfl, rfl⟩ := hlast
        cases hmore
        have hstep := listStep_last (by simpa using hne) (hread [] .nothing)
        exact ⟨_, repeatAlong_stop hstep _, rfl⟩
      · obtain ⟨found, hfound, hargs⟩ := ih hfuel
        have happart : apart ((ts, joint) :: ms) trailing =
            ts ++ .punct ',' joint :: apart ms trailing := by
          cases ms with
          | nil => cases trailing with
            | false => simp at hlast
            | true => rfl
          | cons m ms => rfl
        have hstep := listStep_comma (by simp) (hread _ (.comma joint (apart ms trailing)))
        rw [happart]
        exact ⟨_, repeatAlong_again hstep hfound, by simp [hargs]⟩

theorem length_le_apart {g : Grammar} {ms : List (List Token × Bool)} {args : List Argument}
    (hreads : List.Forall₂ (fun m a => ReadsAs g m.1 a) ms args) (trailing : Bool) :
    ms.length ≤ (apart ms trailing).length := by
  induction hreads with
  | nil => exact Nat.zero_le _
  | @cons m a ms args hread hmore ih =>
    obtain ⟨ts, joint⟩ := m
    have hpos : 0 < ts.length := List.length_pos_iff.mpr (ne_nil_of_readsAs hread)
    cases ms with
    | nil =>
      simp only [apart, List.length_append, List.length_cons, List.length_nil]
      omega
    | cons m ms =>
      simp only [apart, List.length_append, List.length_cons] at ih ⊢
      omega

/-- Arguments apart by commas, perhaps with one behind the last, are the arguments of a tag. -/
theorem readArguments_apart {ms : List (List Token × Bool)} {args : List Argument}
    {trailing : Bool}
    (hreads : List.Forall₂
      (fun m a => ReadsAs (grammar (depthFor (apart ms trailing))) m.1 a) ms args) :
    readArguments (apart ms trailing) = .ok args := by
  obtain ⟨found, hfound, rfl⟩ :=
    repeatAlong_apart hreads trailing (length_le_apart hreads trailing)
  have hlist : readWith (fun g => punctuated List.isEmpty "," (argumentRule g))
      (apart ms trailing) = .ok (Punctuated.ofPairs found.flatten) := by
    have hrepeated : repeated (listStep (argumentRule (grammar (depthFor (apart ms trailing)))))
        ⟨apart ms trailing, none⟩ = .ok (found, ⟨[], none⟩) := hfound
    have hpunctuated : (punctuated List.isEmpty ","
        (argumentRule (grammar (depthFor (apart ms trailing))))).run ⟨apart ms trailing, none⟩ =
        .ok (Punctuated.ofPairs found.flatten, ⟨[], none⟩) := run_bind_of_ok hrepeated
    simp only [readWith, readAll, hpunctuated]
    rfl
  unfold readArguments
  rw [hlist]
  rfl

end MarkerInjection.Source
