-- Injectors and the registry that holds them in the order in which they run.
import MarkerInjection.Failure
import MarkerInjection.Text.Escaped

namespace MarkerInjection

/-! ## Injectors -/

/-- What an injector does to the memory, the source unit and the class, and the cause if it
fails. What it changed before it failed stays changed. -/
abbrev Injector (h : Host) :=
  h.Memory → h.SourceUnit → h.Class → h.Memory × h.SourceUnit × h.Class × Except Cause Unit

/-- An injector with its name and its capability. -/
structure Descriptor (h : Host) where
  name : String
  capability : Capability
  inject : Injector h

namespace Descriptor

variable {h : Host}

def supports (d : Descriptor h) (t : ArtefactType) : Bool := d.capability.supports t

/-- A descriptor shown with its name and its capability, for logs. -/
def shown (d : Descriptor h) : String :=
  let capability := match d.capability with
    | .universal => "Universal"
    | .only types =>
      "Scoped(\x7b" ++ ", ".intercalate (types.toList.map Text.shown) ++ "\x7d)"
  "InjectorDescriptor \x7b name: " ++ Text.shown d.name ++ ", capability: " ++ capability ++
    ", .. \x7d"

end Descriptor

/-! ## Registrations -/

/-- What is handed over for a registry: an injector for every type or for those that are listed,
or a descriptor that is there already. -/
inductive Registration (h : Host)
  | universal (name : String) (inject : Injector h)
  | only (name : String) (types : List String) (inject : Injector h)
  | prepared (d : Descriptor h)

/-- The descriptor that is registered. -/
def Registration.descriptor {h : Host} : Registration h → Descriptor h
  | universal name inject => ⟨name, .universal, inject⟩
  | only name types inject => ⟨name, .only (.ofList types), inject⟩
  | prepared d => d

/-! ## Repeated names -/

/-- The first name that stands in the list for a second time, apart from those seen before. -/
def firstRepeated? (seen : List String) : List String → Option String
  | [] => none
  | n :: ns => if seen.contains n then some n else firstRepeated? (n :: seen) ns

/-- Without a repeated name, the names differ from each other and from those seen before. -/
theorem nodup_of_firstRepeated? {seen ns : List String} (h : firstRepeated? seen ns = none) :
    ns.Nodup ∧ ∀ n ∈ ns, n ∉ seen := by
  induction ns generalizing seen with
  | nil => simp
  | cons n ns ih =>
    unfold firstRepeated? at h
    split at h
    · simp at h
    · rename_i hseen
      have ⟨hnodup, hout⟩ := ih h
      have hn : n ∉ ns := fun hmem => hout n hmem (by simp)
      refine ⟨List.nodup_cons.2 ⟨hn, hnodup⟩, ?_⟩
      intro m hm
      rcases List.mem_cons.1 hm with rfl | hm
      · simpa using hseen
      · exact fun hs => hout m hm (List.mem_cons_of_mem _ hs)

/-! ## The registry -/

/-- The injectors of a run, in the order in which they run. No two share a name. -/
structure Registry (h : Host) where
  descriptors : List (Descriptor h)
  distinct : (descriptors.map (·.name)).Nodup

namespace Registry

variable {h : Host}

/-- The registry without injectors. -/
def empty (h : Host) : Registry h := ⟨[], List.nodup_nil⟩

/-- The registry of the given injectors, in their order. It fails with the first name that
repeats an earlier one. -/
def build (ds : List (Descriptor h)) : Except Failure (Registry h) :=
  match hr : firstRepeated? [] (ds.map (·.name)) with
  | some name => .error (.duplicateInjector name)
  | none => .ok ⟨ds, (nodup_of_firstRepeated? hr).1⟩

/-- The descriptor of this name. -/
def get? (r : Registry h) (name : String) : Option (Descriptor h) :=
  r.descriptors.find? (·.name == name)

/-- The descriptors that apply to the type, in registry order. -/
def matching (r : Registry h) (t : ArtefactType) : List (Descriptor h) :=
  r.descriptors.filter (·.supports t)

/-- The names that the capabilities list, each once, in ascending order. -/
def listedTypes (r : Registry h) : NameSet :=
  NameSet.ofList (r.descriptors.flatMap (·.capability.listed))

end Registry

end MarkerInjection
