import Mathlib.Data.List.Basic

/-!
Ordered packet filters: the first rule that hits decides. Chains are assembled
from sections that are switched on and off as a whole. When every rule of a
section has the same target, the sections themselves behave as one first-match
list.
-/

namespace FirstMatch

variable {Packet Target : Type}

structure Rule (Packet Target : Type) where
  hits : Packet → Bool
  target : Target

def eval : List (Rule Packet Target) → Packet → Option Target
  | [], _ => none
  | rule :: rest, packet => if rule.hits packet then some rule.target else eval rest packet

lemma eval_append (front back : List (Rule Packet Target)) (packet : Packet) :
    eval (front ++ back) packet = (eval front packet).or (eval back packet) := by
  induction front with
  | nil => simp [eval]
  | cons rule rest ih =>
    by_cases hit : rule.hits packet = true
    · simp [eval, hit]
    · simp [eval, hit, ih]

lemma eval_uniform (rules : List (Rule Packet Target)) (target : Target)
    (uniform : ∀ rule ∈ rules, rule.target = target) (packet : Packet) :
    eval rules packet = if rules.any (·.hits packet) then some target else none := by
  induction rules with
  | nil => rfl
  | cons rule rest ih =>
    have tail := ih fun other member => uniform other (List.mem_cons_of_mem rule member)
    have head := uniform rule List.mem_cons_self
    by_cases hit : rule.hits packet = true
    · simp [eval, hit, head]
    · simp [eval, hit, tail]

/-! Sections. `chain` is what the packet really traverses: the rules of the
enabled sections, one after the other. `decide` looks at sections only. -/
section Sections

variable {Name : Type}

def chain (enabled : Name → Bool) (rules : Name → List (Rule Packet Target))
    (order : List Name) : List (Rule Packet Target) :=
  order.flatMap fun name => if enabled name then rules name else []

def sectionHits (enabled : Name → Bool) (rules : Name → List (Rule Packet Target))
    (name : Name) (packet : Packet) : Bool :=
  enabled name && (rules name).any (·.hits packet)

def decide (enabled : Name → Bool) (rules : Name → List (Rule Packet Target))
    (target : Name → Target) : List Name → Packet → Option Target
  | [], _ => none
  | name :: rest, packet =>
    if sectionHits enabled rules name packet then some (target name)
    else decide enabled rules target rest packet

lemma chain_decides (enabled : Name → Bool) (rules : Name → List (Rule Packet Target))
    (target : Name → Target) (order : List Name) (packet : Packet)
    (uniform : ∀ name, ∀ rule ∈ rules name, rule.target = target name) :
    eval (chain enabled rules order) packet = decide enabled rules target order packet := by
  induction order with
  | nil => rfl
  | cons name rest ih =>
    have tail : eval (chain enabled rules (name :: rest)) packet =
        (eval (if enabled name then rules name else []) packet).or
          (eval (chain enabled rules rest) packet) := by
      exact eval_append _ _ packet
    rw [tail, ih, decide]
    -- a section that is off has no rule in the chain, so its target does not matter
    by_cases on : enabled name = true
    · rw [if_pos on, eval_uniform (rules name) (target name) (uniform name) packet]
      by_cases hit : (rules name).any (·.hits packet) = true
      · simp [sectionHits, on, hit]
      · simp [sectionHits, hit]
    · simp [sectionHits, on, eval]

end Sections

end FirstMatch
