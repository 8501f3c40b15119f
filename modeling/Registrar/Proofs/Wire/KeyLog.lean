import Mathlib.Control.Monad.Writer
import Registrar.Name
import Registrar.Proofs.Wire.Rewriting

namespace Registrar.Wire

/-!
# The keys that a decoder meets

A tuple is held with its keys in order, whatever their order was on the wire. To
speak about the order on the wire, decoders are run with a log.

* `KeyLog` — the keys of each tuple that was met, in the order they were read;
* `Logged` — a decoder that keeps the log, and `Logged.forget`, the decoder alone;
* `LoggedFormat` — a type whose decoder can keep the log, and reads what it reads
  without;
* `Canonical` — what such a decoder reads is written again in as many bytes, and in
  the same bytes exactly if all keys were met in order;
* `Logged.Completes` — the same for records and tagged sums, field by field;
* `keysMet`, `exists_encode_of_ofBytes` — the same for whole inputs.
-/

variable {α β : Type}

/-! ### Logs -/

/-- The keys of each tuple that was met, in the order they were read. -/
abbrev KeyLog := List (List ClarityName)

namespace KeyLog

/-- In every tuple the keys were read in strictly increasing byte order. -/
def InOrder (log : KeyLog) : Prop := ∀ keys ∈ log, keys.Pairwise (· < ·)

instance (log : KeyLog) : Decidable log.InOrder :=
  inferInstanceAs (Decidable (∀ keys ∈ log, keys.Pairwise (· < ·)))

theorem inOrder_nil : InOrder [] := by
  simp [InOrder]

/-- One tuple is in order if its keys increase. -/
theorem inOrder_singleton {keys : List ClarityName} :
    InOrder [keys] ↔ keys.Pairwise (· < ·) := by
  simp [InOrder]

/-- Logs one after the other are in order exactly if both are. -/
theorem inOrder_append {front back : KeyLog} :
    InOrder (front ++ back) ↔ front.InOrder ∧ back.InOrder := by
  simp only [InOrder, List.mem_append, or_imp, forall_and]

/-- Any number of logs one after the other are in order exactly if each is. -/
theorem inOrder_flatten {logs : List KeyLog} :
    InOrder logs.flatten ↔ ∀ log ∈ logs, log.InOrder := by
  constructor
  · intro h log hlog keys hkeys
    exact h keys (List.mem_flatten.2 ⟨log, hlog, hkeys⟩)
  · intro h keys hkeys
    obtain ⟨log, hlog, hkeys⟩ := List.mem_flatten.1 hkeys
    exact h log hlog keys hkeys

end KeyLog

/-- Where no tuple is met there is nothing to put in order. -/
theorem Rewritten.unlogged {cursor next : Cursor} {part : Except EncodeFault Bytes}
    (h : Rewritten cursor next part True) : Rewritten cursor next part (KeyLog.InOrder []) :=
  h.congr (iff_of_true trivial KeyLog.inOrder_nil)

/-! ### Decoders with a log -/

/-- Changing each item can wait until all have been read. -/
theorem Decoder.times_map (f : α → β) (d : Decoder α) (count : Nat) :
    Decoder.times count (f <$> d) = List.map f <$> Decoder.times count d := by
  induction count with
  | zero => rfl
  | succ count ih => simp [Decoder.times, ih]

/-- A decoder that keeps the log of the tuples it meets. -/
abbrev Logged (α : Type) := WriterT KeyLog Decoder α

namespace Logged

/-- The decoder without its log. -/
def forget (x : Logged α) : Decoder α := Prod.fst <$> x.run

/-- A decoder that meets no tuple. -/
def plain (d : Decoder α) : Logged α := WriterT.mk ((fun a => (a, [])) <$> d)

/-- Enters a tuple with its keys as they were read. -/
def meet (keys : List ClarityName) : Logged Unit := WriterT.mk (pure ((), [keys]))

/-- The decoder a number of times over, its logs one after another. -/
def times (count : Nat) (x : Logged α) : Logged (List α) :=
  WriterT.mk ((fun items => (items.map Prod.fst, (items.map Prod.snd).flatten)) <$>
    Decoder.times count x.run)

/-! ### Without the log -/

@[simp] theorem forget_pure (a : α) : (pure a : Logged α).forget = pure a := rfl

@[simp] theorem forget_bind (x : Logged α) (f : α → Logged β) :
    (x >>= f).forget = x.forget >>= fun a => (f a).forget := by
  simp only [forget, bind_map_left]
  exact (map_bind ..).trans (by simp only [Functor.map_map])

@[simp] theorem forget_plain (d : Decoder α) : (plain d).forget = d := by
  simp only [forget, plain, WriterT.run_mk, Functor.map_map, id_map']

@[simp] theorem forget_meet (keys : List ClarityName) : (meet keys).forget = pure () := rfl

@[simp] theorem forget_times (count : Nat) (x : Logged α) :
    (times count x).forget = Decoder.times count x.forget := by
  simp only [forget, times, WriterT.run_mk, Functor.map_map, Decoder.times_map]

/-! ### Runs that end well -/

variable {cursor next : Cursor} {log : KeyLog}

/-- Two logged steps succeed exactly if both do, and the logs stand in their order. -/
theorem run_bind_eq_ok {x : Logged α} {f : α → Logged β} {b : β} :
    (x >>= f).run.run cursor = (.ok (b, log), next) ↔
      ∃ a front mid back, x.run.run cursor = (.ok (a, front), mid) ∧
        (f a).run.run mid = (.ok (b, back), next) ∧ log = front ++ back := by
  -- the log of the first decoder stands in front of the log of the next one
  have hbind : (x >>= f).run = x.run >>= fun p =>
      (f p.1).run >>= fun q => pure (q.1, p.2 ++ q.2) := by
    simp only [bind_pure_comp]
    rfl
  rw [hbind]
  simp only [Decoder.run_bind_eq_ok, Decoder.run_pure_eq_ok, Prod.mk.injEq]
  constructor
  · rintro ⟨⟨a, front⟩, mid, hx, ⟨b, back⟩, _, hf, ⟨rfl, rfl⟩, rfl⟩
    exact ⟨a, front, mid, back, hx, hf, rfl⟩
  · rintro ⟨a, front, mid, back, hx, hf, rfl⟩
    exact ⟨(a, front), mid, hx, (b, back), next, hf, ⟨rfl, rfl⟩, rfl⟩

theorem run_pure_eq_ok {a b : α} :
    (pure a : Logged α).run.run cursor = (.ok (b, log), next) ↔
      a = b ∧ log = [] ∧ cursor = next := by
  have hpure : (pure a : Logged α).run = pure (a, []) := rfl
  rw [hpure, Decoder.run_pure_eq_ok, Prod.mk.injEq, and_assoc, eq_comm (a := [])]

theorem run_plain_eq_ok {d : Decoder α} {a : α} :
    (plain d).run.run cursor = (.ok (a, log), next) ↔ d.run cursor = (.ok a, next) ∧ log = [] := by
  have hplain : (plain d).run = d >>= fun a => pure (a, []) := (bind_pure_comp _ _).symm
  simp only [hplain, Decoder.run_bind_eq_ok, Decoder.run_pure_eq_ok, Prod.mk.injEq]
  constructor
  · rintro ⟨_, _, hd, ⟨rfl, rfl⟩, rfl⟩
    exact ⟨hd, rfl⟩
  · rintro ⟨hd, rfl⟩
    exact ⟨a, next, hd, ⟨rfl, rfl⟩, rfl⟩

theorem run_meet_eq_ok {keys : List ClarityName} {u : Unit} :
    (meet keys).run.run cursor = (.ok (u, log), next) ↔ log = [keys] ∧ cursor = next := by
  have hmeet : (meet keys).run = pure ((), [keys]) := rfl
  rw [hmeet, Decoder.run_pure_eq_ok, Prod.mk.injEq, eq_comm (a := [keys])]
  simp

/-- Repeating a logged step joins the logs of the repetitions. -/
theorem run_times_eq_ok {x : Logged α} {count : Nat} {items : List α} :
    (times count x).run.run cursor = (.ok (items, log), next) ↔
      ∃ read, (Decoder.times count x.run).run cursor = (.ok read, next) ∧
        items = read.map Prod.fst ∧ log = (read.map Prod.snd).flatten := by
  have htimes : (times count x).run = Decoder.times count x.run >>= fun read =>
      pure (read.map Prod.fst, (read.map Prod.snd).flatten) := (bind_pure_comp _ _).symm
  simp only [htimes, Decoder.run_bind_eq_ok, Decoder.run_pure_eq_ok, Prod.mk.injEq]
  constructor
  · rintro ⟨read, _, hread, ⟨rfl, rfl⟩, rfl⟩
    exact ⟨read, hread, rfl, rfl⟩
  · rintro ⟨read, hread, rfl, rfl⟩
    exact ⟨read, next, hread, ⟨rfl, rfl⟩, rfl⟩

/-- A run without the log is a run with some log. -/
theorem run_forget_eq_ok {x : Logged α} {a : α} :
    x.forget.run cursor = (.ok a, next) ↔ ∃ log, x.run.run cursor = (.ok (a, log), next) := by
  have hforget : x.forget = x.run >>= fun p => pure p.1 := (bind_pure_comp _ _).symm
  simp only [hforget, Decoder.run_bind_eq_ok, Decoder.run_pure_eq_ok]
  constructor
  · rintro ⟨⟨a, log⟩, _, hx, rfl, rfl⟩
    exact ⟨log, hx⟩
  · rintro ⟨log, hx⟩
    exact ⟨(a, log), next, hx, rfl, rfl⟩

/-! ### Written again -/

/-- What is read is written again, in the same bytes exactly if all keys were met in
    order. -/
def Rewrites (x : Logged α) (form : α → Except EncodeFault Bytes) : Prop :=
  ∀ ⦃cursor a log next⦄, x.run.run cursor = (.ok (a, log), next) →
    Rewritten cursor next (form a) log.InOrder

/-- A decoder that meets no tuple has nothing to put in order. -/
theorem rewrites_plain {d : Decoder α} {form : α → Except EncodeFault Bytes}
    (h : d.Rewrites form fun _ => True) : (plain d).Rewrites form := by
  intro cursor a log next hrun
  obtain ⟨hd, rfl⟩ := run_plain_eq_ok.1 hrun
  exact (h hd).unlogged

/-- **Repetition.** Items read in a row are written again in a row. -/
theorem Rewrites.times {x : Logged α} {form : α → Except EncodeFault Bytes}
    (h : x.Rewrites form) (count : Nat) :
    (Logged.times count x).Rewrites fun items => joined (items.map form) := by
  intro cursor items log next hrun
  obtain ⟨read, hread, rfl, rfl⟩ := run_times_eq_ok.1 hrun
  -- an item comes with its log, and the logs are put together behind the last item
  have hitem : x.run.Rewrites (fun read => form read.1) fun read => read.2.InOrder := by
    intro cursor read next hrun
    exact h hrun
  show Rewritten cursor next (joined ((read.map Prod.fst).map form))
    (KeyLog.InOrder (read.map Prod.snd).flatten)
  rw [List.map_map, KeyLog.inOrder_flatten, List.forall_mem_map]
  exact hitem.times count hread

/-- As many items are read as were asked for. -/
theorem length_of_times {x : Logged α} {count : Nat} {items : List α}
    (h : (Logged.times count x).run.run cursor = (.ok (items, log), next)) :
    items.length = count := by
  obtain ⟨read, hread, rfl, -⟩ := run_times_eq_ok.1 h
  rw [List.length_map, Decoder.length_of_times hread]

end Logged

/-! ### Types whose decoder keeps the log -/

/-- A type whose decoder can keep the log: with it, it reads what it reads without. -/
class LoggedFormat (α : Type) [Format α] where
  logged : Logged α
  forget_logged : logged.forget = decode

export LoggedFormat (logged forget_logged)

/-- What the type's decoder reads is written again in as many bytes, and in the same
    bytes exactly if all keys were met in order. -/
class Canonical (α : Type) [Format α] [LoggedFormat α] : Prop where
  rewrites_logged : (logged : Logged α).Rewrites encode

export Canonical (rewrites_logged)

section

variable [Format α] [LoggedFormat α]

instance : LoggedFormat (List α) where
  logged := do
    let count ← Logged.plain decodeLength
    Logged.times count logged
  forget_logged := by
    simp only [Logged.forget_bind, Logged.forget_plain, Logged.forget_times, forget_logged]
    rfl

instance [Canonical α] : Canonical (List α) where
  rewrites_logged := by
    intro cursor items log next h
    obtain ⟨count, _, mid, log, hplain, hitems, rfl⟩ := Logged.run_bind_eq_ok.1 h
    obtain ⟨hcount, rfl⟩ := Logged.run_plain_eq_ok.1 hplain
    obtain rfl := Logged.length_of_times hitems
    exact .cons_same (decodeLength_rewrites hcount) (rewrites_logged.times _ hitems)

end

/-! ### Field by field -/

/-- What the decoder reads completes the parts in front of it: they and the parts it is
    written as are the form of the value. -/
def Logged.Completes (x : Logged β) (form : β → Except EncodeFault Bytes)
    (front : List (Except EncodeFault Bytes)) : Prop :=
  ∀ ⦃cursor b log next⦄, x.run.run cursor = (.ok (b, log), next) →
    ∃ parts, form b = joined (front ++ parts) ∧ Rewritten cursor next (joined parts) log.InOrder

namespace Logged.Completes

variable {form : β → Except EncodeFault Bytes} {front : List (Except EncodeFault Bytes)}

/-- When no field is left, the parts in front are the form. -/
theorem done {b : β} (h : form b = joined front) :
    (Pure.pure b : Logged β).Completes form front := by
  intro cursor _ log next hrun
  obtain ⟨rfl, rfl, rfl⟩ := run_pure_eq_ok.1 hrun
  refine ⟨[], ?_, (Rewritten.nil cursor).unlogged⟩
  rw [h, List.append_nil]

/-- What completes a form without logging completes it with nothing logged. -/
theorem plain {d : Decoder β} (hd : d.Completes form front) :
    (Logged.plain d).Completes form front := by
  intro cursor b log next hrun
  obtain ⟨hread, rfl⟩ := run_plain_eq_ok.1 hrun
  obtain ⟨parts, hform, hparts⟩ := hd hread
  exact ⟨parts, hform, hparts.unlogged⟩

/-- **Sequencing.** What is read first moves to the parts in front. -/
theorem bind {x : Logged α} {f : α → Logged β} {part : α → Except EncodeFault Bytes}
    (hx : x.Rewrites part) (hf : ∀ a, (f a).Completes form (front ++ [part a])) :
    (x >>= f).Completes form front := by
  intro cursor b log next hrun
  obtain ⟨a, log, mid, log', ha, hf', rfl⟩ := run_bind_eq_ok.1 hrun
  obtain ⟨parts, hform, hparts⟩ := hf a hf'
  refine ⟨part a :: parts, ?_, ((hx ha).cons hparts).congr KeyLog.inOrder_append.symm⟩
  rw [hform, List.append_assoc, List.singleton_append]

/-- A field without tuples moves to the parts in front. -/
theorem field [Format α] [Exact α] {f : α → Logged β}
    (hf : ∀ a, (f a).Completes form (front ++ [encode a])) :
    (Logged.plain decode >>= f).Completes form front :=
  .bind (rewrites_plain rewrites) hf

/-- A field with tuples moves to the parts in front likewise. -/
theorem loggedField [Format α] [LoggedFormat α] [Canonical α] {f : α → Logged β}
    (hf : ∀ a, (f a).Completes form (front ++ [encode a])) :
    (logged >>= f).Completes form front :=
  .bind rewrites_logged hf

end Logged.Completes

/-- With nothing in front, the parts are the form. -/
theorem Logged.Rewrites.of_completes {x : Logged β} {form : β → Except EncodeFault Bytes}
    (h : x.Completes form []) : x.Rewrites form := by
  intro cursor b log next hrun
  obtain ⟨parts, hform, hparts⟩ := h hrun
  rw [hform]
  exact hparts

/-! ### Whole inputs -/

section

variable [Format α] [LoggedFormat α]

/-- The keys of each tuple that is met while the input is decoded, in the order they
    are read. -/
def keysMet (α : Type) [Format α] [LoggedFormat α] (input : Bytes) : KeyLog :=
  match (logged : Logged α).run.run (.start input) with
  | (.ok (_, log), _) => log
  | (.error _, _) => []

/-- **Decoding and encoding again.** Whatever an input holds is written again in as many
    bytes, which are the input exactly if all keys in it stand in order. -/
theorem exists_encode_of_ofBytes [Canonical α] {input : Bytes} {a : α}
    (h : ofBytes input = .ok a) :
    ∃ written, encode a = .ok written ∧ written.length = input.length ∧
      (written = input ↔ (keysMet α input).InOrder) := by
  obtain ⟨next, hrun, hrest⟩ := ofBytes_eq_ok_iff.1 h
  rw [← forget_logged] at hrun
  obtain ⟨log, hlog⟩ := Logged.run_forget_eq_ok.1 hrun
  obtain ⟨read, written, hspans, hencode, hlen, hsame⟩ := rewrites_logged hlog
  -- nothing is left, so what was read is the whole input
  obtain rfl : input = read := by
    have hinput := hspans.1
    rwa [hrest, List.append_nil] at hinput
  refine ⟨written, hencode, hlen, ?_⟩
  simpa only [keysMet, hlog] using hsame

end

end Registrar.Wire
