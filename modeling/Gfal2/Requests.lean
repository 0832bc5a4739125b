import Gfal2.PluginInterface
import Gfal2.Base.Throwing

/-! Plugins over services that are known by what is asked of them: what a service answers is any function of the
requests made before. A plugin is then judged by the requests it makes. -/

namespace Gfal2

open Base

/-- The data of a plugin, and the requests it has made. -/
structure Services (P R : Type) where
  plugin : P
  made : List R := []

section Requests

variable {P R α : Type}

/-- A request with its answer, of which a record is made. -/
def exchange (answer : List R → α) (record : α → R) : Gfal (Services P R) α := fun context =>
  .ok (answer context.world.made,
    { context with world := { context.world with made := context.world.made ++ [record (answer context.world.made)] } })

/-- A request of which its answer is no part of the record. -/
def makeRequest (request : R) (answer : List R → α) : Gfal (Services P R) α := exchange answer fun _ => request

/-- No request to be avoided is made between the two states. -/
def Avoids (avoided : R → Prop) (before after : Gfal2Context (Services P R)) : Prop :=
  ∃ made, after.world.made = before.world.made ++ made ∧ ∀ request ∈ made, ¬avoided request

variable {avoided : R → Prop}

theorem Avoids.of_made_eq {before after : Gfal2Context (Services P R)} (h : after.world.made = before.world.made) :
    Avoids avoided before after :=
  ⟨[], by simp [h], by simp⟩

/-- Where everything is to be avoided nothing is requested. -/
theorem Avoids.made_eq {before after : Gfal2Context (Services P R)} (h : Avoids (fun _ => True) before after) :
    after.world.made = before.world.made := by
  obtain ⟨made, hmade, havoids⟩ := h
  have hnil : made = [] := List.eq_nil_iff_forall_not_mem.mpr fun request hmem => havoids request hmem trivial
  rw [hmade, hnil, List.append_nil]

theorem Avoids.refl (context : Gfal2Context (Services P R)) : Avoids avoided context context := Avoids.of_made_eq rfl

theorem Avoids.trans (a b c : Gfal2Context (Services P R)) (hab : Avoids avoided a b) (hbc : Avoids avoided b c) :
    Avoids avoided a c := by
  obtain ⟨first, hb, hfirst⟩ := hab
  obtain ⟨last, hc, hlast⟩ := hbc
  refine ⟨first ++ last, by rw [hc, hb, List.append_assoc], fun request h => ?_⟩
  rcases List.mem_append.mp h with h | h
  · exact hfirst request h
  · exact hlast request h

theorem exchange_within {answer : List R → α} {record : α → R} (h : ∀ value, ¬avoided (record value)) :
    Exec.Within (Avoids avoided) (exchange answer record : Gfal (Services P R) α) := by
  intro context value context' heq
  cases heq
  exact ⟨[_], rfl, by simpa using h _⟩

theorem makeRequest_within {request : R} (h : ¬avoided request) (answer : List R → α) :
    Exec.Within (Avoids avoided) (makeRequest request answer : Gfal (Services P R) α) :=
  exchange_within fun _ => h

end Requests

end Gfal2
