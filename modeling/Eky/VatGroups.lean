import Eky.InvoiceMoney

/-! # VAT groups — the lines of one rate

    VAT is settled per RATE: the lines of a rate share one price input mode and
    the tax follows from the sum of their input amounts.

    - `netOf`, `grossOf`, `vatOf`: what an input amount splits into;
    - `sumOn`: a sum over the lines of one rate;
    - `accumulateVat`: the loop body by which the program collects a rate;
      `groupVat_spec` says what it leaves at a rate and `groupVat_total` when
      it gets through. -/

namespace VatGroups

open Fallible Apportionment OrderedMap InvoiceMoney

/-! ## Splitting an input amount -/

/-- The net amount of an input amount. -/
def netOf (mode : PriceInputMode) (rate input : Int) : Int :=
  match mode with
  | .net => input
  | .gross => halfUp (input * 10000) (10000 + rate)

/-- The gross amount of an input amount. -/
def grossOf (mode : PriceInputMode) (rate input : Int) : Int :=
  match mode with
  | .net => input + halfUp (input * rate) 10000
  | .gross => input

/-- The VAT of an input amount. -/
def vatOf (mode : PriceInputMode) (rate input : Int) : Int :=
  grossOf mode rate input - netOf mode rate input

variable {mode : PriceInputMode} {rate a b : Int}

@[simp] theorem netOf_zero (hr : 0 ≤ rate) : netOf mode rate 0 = 0 := by
  cases mode with
  | net => rfl
  | gross =>
      rw [netOf, Int.zero_mul]
      exact halfUp_zero (by omega)

@[simp] theorem grossOf_zero : grossOf mode rate 0 = 0 := by
  cases mode with
  | net =>
      rw [grossOf, Int.zero_mul, halfUp_zero (by omega)]
      rfl
  | gross => rfl

theorem netOf_mono (hr : 0 ≤ rate) (h : a ≤ b) : netOf mode rate a ≤ netOf mode rate b := by
  cases mode with
  | net => exact h
  | gross => exact halfUp_mono (by omega) (by omega)

theorem grossOf_mono (hr : 0 ≤ rate) (h : a ≤ b) :
    grossOf mode rate a ≤ grossOf mode rate b := by
  cases mode with
  | net =>
      have hvat : halfUp (a * rate) 10000 ≤ halfUp (b * rate) 10000 :=
        halfUp_mono (by omega) (Int.mul_le_mul_of_nonneg_right h hr)
      show a + _ ≤ b + _
      omega
  | gross => exact h

/-- VAT never falls when the input grows: in gross mode because the net amount
    grows by at most as much as the gross amount. -/
theorem vatOf_mono (hr : 0 ≤ rate) (h : a ≤ b) : vatOf mode rate a ≤ vatOf mode rate b := by
  cases mode with
  | net =>
      have hvat : halfUp (a * rate) 10000 ≤ halfUp (b * rate) 10000 :=
        halfUp_mono (by omega) (Int.mul_le_mul_of_nonneg_right h hr)
      show a + _ - a ≤ b + _ - b
      omega
  | gross =>
      have hsplit : b * 10000 = a * 10000 + (b - a) * 10000 := by ring
      have hstep : (b - a) * 10000 ≤ (b - a) * (10000 + rate) :=
        Int.mul_le_mul_of_nonneg_left (by omega) (by omega)
      have hnet : halfUp (b * 10000) (10000 + rate)
          ≤ halfUp (a * 10000) (10000 + rate) + (b - a) := by
        rw [hsplit]
        exact halfUp_add_le (by omega) hstep
      show a - halfUp (a * 10000) (10000 + rate) ≤ b - halfUp (b * 10000) (10000 + rate)
      omega

theorem vatOf_zero (hr : 0 ≤ rate) : vatOf mode rate 0 = 0 := by
  rw [vatOf, grossOf_zero, netOf_zero hr, Int.sub_self]

theorem netOf_nonneg (hr : 0 ≤ rate) (h : 0 ≤ a) : 0 ≤ netOf mode rate a := by
  have hmono : netOf mode rate 0 ≤ netOf mode rate a := netOf_mono hr h
  rwa [netOf_zero hr] at hmono

theorem vatOf_nonneg (hr : 0 ≤ rate) (h : 0 ≤ a) : 0 ≤ vatOf mode rate a := by
  have hmono : vatOf mode rate 0 ≤ vatOf mode rate a := vatOf_mono hr h
  rwa [vatOf_zero hr] at hmono

theorem grossOf_nonneg (hr : 0 ≤ rate) (h : 0 ≤ a) : 0 ≤ grossOf mode rate a := by
  have hmono : grossOf mode rate 0 ≤ grossOf mode rate a := grossOf_mono hr h
  rwa [grossOf_zero] at hmono

theorem input_le_grossOf (hr : 0 ≤ rate) (h : 0 ≤ a) : a ≤ grossOf mode rate a := by
  cases mode with
  | net =>
      have hvat : 0 ≤ halfUp (a * rate) 10000 :=
        halfUp_nonneg (by omega) (Int.mul_nonneg h hr)
      show a ≤ a + halfUp (a * rate) 10000
      omega
  | gross => exact Int.le_refl a

/-! ## Sums over a rate -/

/-- The lines of a rate. -/
def onRate (rate : Int) (lines : List LineAmounts) : List LineAmounts :=
  withKey (·.vatRateBasisPoints) rate lines

/-- The sum of an amount over the lines of a rate. -/
def sumOn (f : LineAmounts → Int) (rate : Int) (lines : List LineAmounts) : Int :=
  ((onRate rate lines).map f).sum

variable {f g : LineAmounts → Int} {r : Int} {xs ys : List LineAmounts}

variable {m : OrderedMap Int VatCapacity} {x : LineAmounts} {c : VatCapacity}

theorem mem_onRate : x ∈ onRate r xs ↔ x ∈ xs ∧ x.vatRateBasisPoints = r := mem_withKey

@[simp] theorem sumOn_nil : sumOn f r [] = 0 := rfl

theorem sumOn_cons : sumOn f r (x :: xs)
      = (if x.vatRateBasisPoints = r then f x else 0) + sumOn f r xs := by
  by_cases h : x.vatRateBasisPoints = r
  · subst h
    rw [if_pos rfl, sumOn, onRate, withKey_cons_self]
    rfl
  · rw [if_neg h, Int.zero_add, sumOn, onRate, withKey_cons_ne h]
    rfl

@[simp] theorem sumOn_append : sumOn f r (xs ++ ys) = sumOn f r xs + sumOn f r ys := by
  rw [sumOn, onRate, withKey, List.filter_append, List.map_append, List.sum_append]
  rfl

theorem sumOn_perm (h : xs.Perm ys) : sumOn f r xs = sumOn f r ys :=
  ((h.filter _).map f).sum_eq

theorem sumOn_congr (h : ∀ x ∈ xs, x.vatRateBasisPoints = r → f x = g x) :
    sumOn f r xs = sumOn g r xs := by
  rw [sumOn, sumOn]
  refine congrArg List.sum (List.map_congr_left ?_)
  intro x hx
  exact h x (mem_onRate.mp hx).1 (mem_onRate.mp hx).2

theorem sumOn_add : sumOn (fun x => f x + g x) r xs = sumOn f r xs + sumOn g r xs := by
  induction xs with
  | nil => rfl
  | cons x rest ih =>
      rw [sumOn_cons, sumOn_cons, sumOn_cons, ih]
      split
      · omega
      · omega

theorem sumOn_nonneg (h : ∀ x ∈ xs, 0 ≤ f x) : 0 ≤ sumOn f r xs := by
  refine List.sum_nonneg ?_
  intro n hn
  obtain ⟨x, hx, rfl⟩ := List.mem_map.mp hn
  exact h x (mem_onRate.mp hx).1

theorem sumOn_le (h : ∀ x ∈ xs, f x ≤ g x) : sumOn f r xs ≤ sumOn g r xs :=
  List.sum_le_sum (fun x hx => h x (mem_onRate.mp hx).1)

theorem sumOn_of_none (h : ∀ x ∈ xs, x.vatRateBasisPoints ≠ r) : sumOn f r xs = 0 := by
  have hempty : onRate r xs = [] := by
    rw [List.eq_nil_iff_forall_not_mem]
    intro x hx
    exact h x (mem_onRate.mp hx).1 (mem_onRate.mp hx).2
  rw [sumOn, hempty]
  rfl

/-- The sum over a list of records that carry line amounts. -/
theorem sumOn_map {α : Type} (amounts : α → LineAmounts) (lines : List α) :
    sumOn f r (lines.map amounts)
      = ((withKey (fun l => (amounts l).vatRateBasisPoints) r lines).map
          (fun l => f (amounts l))).sum := by
  induction lines with
  | nil => rfl
  | cons l rest ih =>
      rw [List.map_cons, sumOn_cons, ih]
      by_cases h : (amounts l).vatRateBasisPoints = r
      · subst h
        have hself : withKey (fun l => (amounts l).vatRateBasisPoints)
            (amounts l).vatRateBasisPoints (l :: rest) = l :: withKey
              (fun l => (amounts l).vatRateBasisPoints) (amounts l).vatRateBasisPoints rest :=
          withKey_cons_self
        rw [if_pos rfl, hself]
        rfl
      · have hne : withKey (fun l => (amounts l).vatRateBasisPoints) r (l :: rest)
            = withKey (fun l => (amounts l).vatRateBasisPoints) r rest := withKey_cons_ne h
        rw [if_neg h, hne, Int.zero_add]

/-! ## Reconciled lines -/

/-- Net, VAT and gross are amounts and add up. -/
def Reconciled (x : LineAmounts) : Prop :=
  0 ≤ x.netCents ∧ 0 ≤ x.vatCents ∧ x.netCents + x.vatCents = x.grossCents

/-- The lines of a rate share one price input mode. -/
def OneModePerRate (xs : List LineAmounts) : Prop :=
  ∀ x ∈ xs, ∀ y ∈ xs, x.vatRateBasisPoints = y.vatRateBasisPoints →
    x.priceInputMode = y.priceInputMode

theorem Reconciled.gross_nonneg (h : Reconciled x) : 0 ≤ x.grossCents := by
  obtain ⟨hnet, hvat, hsum⟩ := h
  omega

theorem Reconciled.input_nonneg (h : Reconciled x) : 0 ≤ x.inputCents := by
  rw [LineAmounts.inputCents]
  split
  · exact h.1
  · exact h.gross_nonneg

theorem Reconciled.input_le_gross (h : Reconciled x) : x.inputCents ≤ x.grossCents := by
  obtain ⟨_, hvat, hsum⟩ := h
  rw [LineAmounts.inputCents]
  split
  · omega
  · exact Int.le_refl _

theorem sumOn_split (h : ∀ x ∈ xs, x.netCents + x.vatCents = x.grossCents) :
    sumOn (·.grossCents) r xs = sumOn (·.netCents) r xs + sumOn (·.vatCents) r xs := by
  rw [← sumOn_add]
  exact sumOn_congr (fun x hx _ => (h x hx).symm)

theorem sumOn_gross (h : ∀ x ∈ xs, Reconciled x) :
    sumOn (·.grossCents) r xs = sumOn (·.netCents) r xs + sumOn (·.vatCents) r xs :=
  sumOn_split (fun x hx => (h x hx).2.2)

/-- In net mode the input sum of a rate is its net sum. -/
theorem sumOn_input_net
    (h : ∀ x ∈ xs, x.vatRateBasisPoints = r → x.priceInputMode = .net) :
    sumOn (·.inputCents) r xs = sumOn (·.netCents) r xs := by
  refine sumOn_congr (fun x hx hr => ?_)
  show x.inputCents = x.netCents
  rw [LineAmounts.inputCents, h x hx hr]

/-- In gross mode the input sum of a rate is its gross sum. -/
theorem sumOn_input_gross
    (h : ∀ x ∈ xs, x.vatRateBasisPoints = r → x.priceInputMode = .gross) :
    sumOn (·.inputCents) r xs = sumOn (·.grossCents) r xs := by
  refine sumOn_congr (fun x hx hr => ?_)
  show x.inputCents = x.grossCents
  rw [LineAmounts.inputCents, h x hx hr]

/-! ## Collecting a rate -/

/-- What the program keeps of a VAT rate while it collects lines. -/
structure VatCapacity where
  priceInputMode : PriceInputMode
  netCents : Int
  vatCents : Int
  grossCents : Int
  deriving DecidableEq

/-- The input amount that has been collected. -/
def VatCapacity.inputCents (c : VatCapacity) : Int :=
  match c.priceInputMode with
  | .net => c.netCents
  | .gross => c.grossCents

section Collecting

variable (rejected : Int → Prop) [DecidablePred rejected]
variable (rangeError modeError : InvoiceError)

/-- Add a line to what has been collected of its rate. -/
def accumulateVat (current : Option VatCapacity) (line : LineAmounts) :
    Checked VatCapacity := do
  throwIf (current.any (·.priceInputMode ≠ line.priceInputMode)) modeError
  let add := addUnless rejected rangeError
  let netCents ← add ((current.map (·.netCents)).getD 0) line.netCents
  let vatCents ← add ((current.map (·.vatCents)).getD 0) line.vatCents
  let grossCents ← add ((current.map (·.grossCents)).getD 0) line.grossCents
  pure ⟨line.priceInputMode, netCents, vatCents, grossCents⟩

variable {rejected rangeError modeError}

/-- An amount of what has been collected, zero when there is nothing. -/
def collected (f : VatCapacity → Int) (entry : Option VatCapacity) : Int :=
  (entry.map f).getD 0

@[simp] theorem collected_none (f : VatCapacity → Int) : collected f none = 0 := rfl

@[simp] theorem collected_some (f : VatCapacity → Int) (c : VatCapacity) :
    collected f (some c) = f c := rfl

theorem accumulateVat_eq_ok {current : Option VatCapacity} {line : LineAmounts}
    (h : accumulateVat rejected rangeError modeError current line = .ok c) :
    (∀ c₀, current = some c₀ → c₀.priceInputMode = line.priceInputMode)
      ∧ c.priceInputMode = line.priceInputMode
      ∧ c.netCents = collected (·.netCents) current + line.netCents
      ∧ c.vatCents = collected (·.vatCents) current + line.vatCents
      ∧ c.grossCents = collected (·.grossCents) current + line.grossCents := by
  simp only [accumulateVat, addUnless, bind_eq_ok, throwIf_eq_ok, exists_const,
    pure_eq_ok] at h
  obtain ⟨hmode, _, ⟨_, rfl⟩, _, ⟨_, rfl⟩, _, ⟨_, rfl⟩, rfl⟩ := h
  refine ⟨?_, rfl, rfl, rfl, rfl⟩
  rintro c₀ rfl
  by_contra hne
  exact hmode (by simpa using hne)

/-- What collecting the lines of one rate leaves there. -/
theorem entryM_accumulateVat {entry entry' : Option VatCapacity}
    {ys : List LineAmounts}
    (h : entryM (accumulateVat rejected rangeError modeError) entry ys = .ok entry') :
    collected (·.netCents) entry'
        = collected (·.netCents) entry + (ys.map (·.netCents)).sum
      ∧ collected (·.vatCents) entry'
        = collected (·.vatCents) entry + (ys.map (·.vatCents)).sum
      ∧ collected (·.grossCents) entry'
        = collected (·.grossCents) entry + (ys.map (·.grossCents)).sum
      ∧ (∀ c, entry' = some c → (∀ y ∈ ys, y.priceInputMode = c.priceInputMode)
          ∧ ∀ c₀, entry = some c₀ → c₀.priceInputMode = c.priceInputMode)
      ∧ (entry' = none ↔ entry = none ∧ ys = []) := by
  induction ys generalizing entry with
  | nil =>
      have he : entry = entry' := pure_eq_ok.mp h
      subst he
      refine ⟨by simp, by simp, by simp, ?_, by simp⟩
      rintro c rfl
      exact ⟨fun y hy => (nomatch hy), fun c₀ h₀ => by rw [Option.some.inj h₀]⟩
  | cons y rest ih =>
      obtain ⟨c₁, hstep, hrest⟩ := entryM_cons.mp h
      obtain ⟨hmode, hline, hnet, hvat, hgross⟩ := accumulateVat_eq_ok hstep
      obtain ⟨ihnet, ihvat, ihgross, ihmode, ihnone⟩ := ih hrest
      simp only [collected_some, hnet, hvat, hgross] at ihnet ihvat ihgross
      simp only [List.map_cons, List.sum_cons]
      refine ⟨by omega, by omega, by omega, ?_, ?_⟩
      · intro c hc
        obtain ⟨hys, hfirst⟩ := ihmode c hc
        have hy : y.priceInputMode = c.priceInputMode := hline ▸ hfirst c₁ rfl
        refine ⟨?_, fun c₀ h₀ => (hmode c₀ h₀).trans hy⟩
        intro z hz
        rcases List.mem_cons.mp hz with rfl | hz
        · exact hy
        · exact hys z hz
      · constructor
        · intro hnone
          exact nomatch (ihnone.mp hnone).1
        · rintro ⟨_, hnil⟩
          exact nomatch hnil

/-- Collecting gets through when the modes agree and the sums stay in range. -/
theorem entryM_accumulateVat_total (hr : RejectsOverflow rejected)
    {entry : Option VatCapacity} {ys : List LineAmounts} (m : PriceInputMode)
    (hys : ∀ y ∈ ys, Reconciled y ∧ y.priceInputMode = m)
    (hentry : ∀ c, entry = some c → c.priceInputMode = m)
    (hnet : 0 ≤ collected (·.netCents) entry)
    (hvat : 0 ≤ collected (·.vatCents) entry)
    (hgross : collected (·.netCents) entry + collected (·.vatCents) entry
      ≤ collected (·.grossCents) entry)
    (hmax : collected (·.grossCents) entry + (ys.map (·.grossCents)).sum
      ≤ maximumSafeInteger) :
    ∃ entry', entryM (accumulateVat rejected rangeError modeError) entry ys
      = .ok entry' := by
  induction ys generalizing entry with
  | nil => exact ⟨entry, rfl⟩
  | cons y rest ih =>
      obtain ⟨⟨hynet, hyvat, hysum⟩, hymode⟩ := hys y List.mem_cons_self
      have hrest : 0 ≤ (rest.map (·.grossCents)).sum := List.sum_nonneg (by
        intro n hn
        obtain ⟨z, hz, rfl⟩ := List.mem_map.mp hn
        exact (hys z (List.mem_cons_of_mem y hz)).1.gross_nonneg)
      rw [List.map_cons, List.sum_cons] at hmax
      have hmode : ¬ entry.any (·.priceInputMode ≠ y.priceInputMode) := by
        cases hc : entry with
        | none => simp
        | some c => simp [hentry c hc, hymode]
      -- the net and VAT sums stay below the gross sum, so one bound serves all three
      have hstep : accumulateVat rejected rangeError modeError entry y
          = .ok ⟨y.priceInputMode, collected (·.netCents) entry + y.netCents,
              collected (·.vatCents) entry + y.vatCents,
              collected (·.grossCents) entry + y.grossCents⟩ := by
        rw [accumulateVat, bind_eq_ok]
        refine ⟨(), throwIf_of_not hmode, ?_⟩
        simp only [bind_eq_ok, pure_eq_ok]
        exact ⟨_, (addUnless_eq_ok hr (by show 0 ≤ collected _ entry + _; omega)).mpr
            ⟨rfl, by show collected _ entry + _ ≤ _; omega⟩,
          _, (addUnless_eq_ok hr (by show 0 ≤ collected _ entry + _; omega)).mpr
            ⟨rfl, by show collected _ entry + _ ≤ _; omega⟩,
          _, (addUnless_eq_ok hr (by show 0 ≤ collected _ entry + _; omega)).mpr
            ⟨rfl, by show collected _ entry + _ ≤ _; omega⟩, rfl⟩
      obtain ⟨entry', hentry'⟩ := @ih (some ⟨y.priceInputMode,
          collected (·.netCents) entry + y.netCents,
          collected (·.vatCents) entry + y.vatCents,
          collected (·.grossCents) entry + y.grossCents⟩)
        (fun z hz => hys z (List.mem_cons_of_mem y hz))
        (fun c hc => Option.some.inj hc ▸ hymode)
        (by simp only [collected_some]; omega) (by simp only [collected_some]; omega)
        (by simp only [collected_some]; omega) (by simp only [collected_some]; omega)
      exact ⟨entry', entryM_cons.mpr ⟨_, hstep, hentry'⟩⟩

/-- The map holds, rate by rate, what the lines amount to. -/
structure Collects (xs : List LineAmounts) (m : OrderedMap Int VatCapacity) : Prop where
  net : ∀ r, collected (·.netCents) (m.get? r) = sumOn (·.netCents) r xs
  vat : ∀ r, collected (·.vatCents) (m.get? r) = sumOn (·.vatCents) r xs
  gross : ∀ r, collected (·.grossCents) (m.get? r) = sumOn (·.grossCents) r xs
  mode : ∀ r c, m.get? r = some c → ∀ x ∈ xs, x.vatRateBasisPoints = r →
    x.priceInputMode = c.priceInputMode
  absent : ∀ r, m.get? r = none ↔ ∀ x ∈ xs, x.vatRateBasisPoints ≠ r

theorem Collects.empty : Collects [] OrderedMap.empty where
  net _ := rfl
  vat _ := rfl
  gross _ := rfl
  mode _ _ h := nomatch h
  absent _ := ⟨fun _ _ hx => (nomatch hx), fun _ => rfl⟩

/-- The entry of a rate that has a line. -/
theorem Collects.entry (h : Collects xs m) (hx : x ∈ xs) : ∃ c, m.get? x.vatRateBasisPoints = some c
      ∧ c.priceInputMode = x.priceInputMode
      ∧ c.netCents = sumOn (·.netCents) x.vatRateBasisPoints xs
      ∧ c.vatCents = sumOn (·.vatCents) x.vatRateBasisPoints xs
      ∧ c.grossCents = sumOn (·.grossCents) x.vatRateBasisPoints xs := by
  cases hc : m.get? x.vatRateBasisPoints with
  | none => exact absurd rfl ((h.absent _).mp hc x hx)
  | some c =>
      have hnet := h.net x.vatRateBasisPoints
      have hvat := h.vat x.vatRateBasisPoints
      have hgross := h.gross x.vatRateBasisPoints
      rw [hc] at hnet hvat hgross
      exact ⟨c, rfl, (h.mode _ c hc x hx rfl).symm, hnet, hvat, hgross⟩

/-- An entry belongs to a rate that has a line. -/
theorem Collects.exists_of_get? (h : Collects xs m) {r : Int} (hc : m.get? r = some c) :
    ∃ x ∈ xs, x.vatRateBasisPoints = r := by
  by_contra hnone
  have hall : ∀ x ∈ xs, x.vatRateBasisPoints ≠ r := fun x hx hxr => hnone ⟨x, hx, hxr⟩
  exact nomatch hc.symm.trans ((h.absent r).mpr hall)

/-- What has been collected of a rate, or nothing under a given mode. -/
theorem Collects.previous (h : Collects xs m) (rate : Int) (mode : PriceInputMode) {p : VatCapacity}
    (hp : p = (m.get? rate).getD ⟨mode, 0, 0, 0⟩) :
    p.netCents = sumOn (·.netCents) rate xs ∧ p.vatCents = sumOn (·.vatCents) rate xs
      ∧ p.grossCents = sumOn (·.grossCents) rate xs
      ∧ p.inputCents = sumOn (·.inputCents) rate xs := by
  have hnet := h.net rate
  have hvat := h.vat rate
  have hgross := h.gross rate
  cases hc : m.get? rate with
  | none =>
      rw [hc] at hp hnet hvat hgross
      have hinput : sumOn (·.inputCents) rate xs = 0 :=
        sumOn_of_none ((h.absent rate).mp hc)
      subst hp
      refine ⟨hnet, hvat, hgross, ?_⟩
      rw [hinput]
      cases mode with
      | net => rfl
      | gross => rfl
  | some c =>
      rw [hc] at hp hnet hvat hgross
      rw [Option.getD_some] at hp
      subst hp
      refine ⟨hnet, hvat, hgross, ?_⟩
      rw [VatCapacity.inputCents]
      cases hmode : p.priceInputMode with
      | net =>
          have hmodes : ∀ x ∈ xs, x.vatRateBasisPoints = rate → x.priceInputMode = .net :=
            fun x hx hr => hmode ▸ h.mode rate p hc x hx hr
          rw [sumOn_input_net hmodes]
          exact hnet
      | gross =>
          have hmodes : ∀ x ∈ xs, x.vatRateBasisPoints = rate → x.priceInputMode = .gross :=
            fun x hx hr => hmode ▸ h.mode rate p hc x hx hr
          rw [sumOn_input_gross hmodes]
          exact hgross

theorem Collects.oneModePerRate (h : Collects xs m) : OneModePerRate xs := by
  intro x hx y hy hrate
  obtain ⟨c, hc, hmode, _⟩ := h.entry hx
  rw [← hmode]
  exact (h.mode _ c hc y hy hrate.symm).symm

/-- Collecting further lines. -/
theorem Collects.extend {m' : OrderedMap Int VatCapacity} (hm : Collects xs m)
    (h : groupM (·.vatRateBasisPoints) (accumulateVat rejected rangeError modeError)
      m ys = .ok m') : Collects (xs ++ ys) m' := by
  have hspec := fun r => entryM_accumulateVat (groupM_get? h r)
  refine ⟨?_, ?_, ?_, ?_, ?_⟩
  · intro r
    rw [(hspec r).1, hm.net, sumOn_append]
    rfl
  · intro r
    rw [(hspec r).2.1, hm.vat, sumOn_append]
    rfl
  · intro r
    rw [(hspec r).2.2.1, hm.gross, sumOn_append]
    rfl
  · intro r c hc x hx hr
    obtain ⟨hys, hfirst⟩ := (hspec r).2.2.2.1 c hc
    rcases List.mem_append.mp hx with hx | hx
    · obtain ⟨c₀, hc₀, hmode, _⟩ := hm.entry hx
      rw [hr] at hc₀
      rw [← hmode]
      exact hfirst c₀ hc₀
    · exact hys x (mem_withKey.mpr ⟨hx, hr⟩)
  · intro r
    rw [(hspec r).2.2.2.2, hm.absent, List.eq_nil_iff_forall_not_mem]
    constructor
    · rintro ⟨hxs, hys⟩ x hx hr
      rcases List.mem_append.mp hx with hx | hx
      · exact hxs x hx hr
      · exact hys x (mem_withKey.mpr ⟨hx, hr⟩)
    · intro hall
      exact ⟨fun x hx => hall x (List.mem_append_left _ hx), fun x hx =>
        hall x (List.mem_append_right _ (mem_withKey.mp hx).1) (mem_withKey.mp hx).2⟩

/-- The sums that have been collected are in range. -/
theorem collected_le (hr : RejectsOverflow rejected) (hxs : ∀ x ∈ xs, 0 ≤ x.grossCents)
    (h : groupM (·.vatRateBasisPoints) (accumulateVat rejected rangeError modeError)
      OrderedMap.empty xs = .ok m) {r : Int} (hc : m.get? r = some c) :
    0 ≤ c.grossCents ∧ c.grossCents ≤ maximumSafeInteger := by
  have hinv := foldlM_invariant (P := fun entry : Option VatCapacity => ∀ c, entry = some c →
    0 ≤ c.grossCents ∧ c.grossCents ≤ maximumSafeInteger) (groupM_get? h r)
    (fun c hnone => (nomatch hnone)) (fun entry x entry' hx hentry hstep => ?_)
  · exact hinv c hc
  · obtain ⟨c', hc', rfl⟩ := map_eq_ok.mp hstep
    intro c₁ hc₁
    cases hc₁
    have hnonneg : 0 ≤ collected (·.grossCents) entry := by
      cases entry with
      | none => exact Int.le_refl 0
      | some c₀ => exact (hentry c₀ rfl).1
    have hx0 : 0 ≤ x.grossCents := hxs x (mem_withKey.mp hx).1
    simp only [accumulateVat, bind_eq_ok, pure_eq_ok] at hc'
    obtain ⟨_, _, _, _, _, _, gross, hgross, rfl⟩ := hc'
    obtain ⟨rfl, hmax⟩ := (addUnless_eq_ok hr (by
      show 0 ≤ collected (·.grossCents) entry + x.grossCents
      omega)).mp hgross
    exact ⟨by show 0 ≤ collected (·.grossCents) entry + x.grossCents; omega, hmax⟩

/-- Collecting gets through on reconciled lines with one mode a rate, as long
    as the gross sums stay in range. -/
theorem Collects.total (hr : RejectsOverflow rejected) (hm : Collects xs m)
    (hrec : ∀ x ∈ xs ++ ys, Reconciled x) (hmode : OneModePerRate (xs ++ ys))
    (hmax : ∀ r, sumOn (·.grossCents) r (xs ++ ys) ≤ maximumSafeInteger) :
    ∃ m', groupM (·.vatRateBasisPoints) (accumulateVat rejected rangeError modeError)
      m ys = .ok m' := by
  refine groupM_total (fun r => ?_)
  rcases hlines : withKey (·.vatRateBasisPoints) r ys with _ | ⟨y, rest⟩
  · exact ⟨m.get? r, by rw [hlines]; rfl⟩
  have hy : y ∈ ys ∧ y.vatRateBasisPoints = r :=
    mem_withKey.mp (hlines ▸ List.mem_cons_self)
  refine entryM_accumulateVat_total hr y.priceInputMode ?_ ?_ ?_ ?_ ?_ ?_
  · intro z hz
    obtain ⟨hz, hzr⟩ := mem_withKey.mp hz
    exact ⟨hrec z (List.mem_append_right _ hz), hmode z (List.mem_append_right _ hz) y
      (List.mem_append_right _ hy.1) (hzr.trans hy.2.symm)⟩
  · intro c hc
    obtain ⟨x, hx, hxr⟩ := hm.exists_of_get? hc
    rw [← hm.mode r c hc x hx hxr]
    exact hmode x (List.mem_append_left _ hx) y (List.mem_append_right _ hy.1)
      (hxr.trans hy.2.symm)
  · rw [hm.net]
    exact sumOn_nonneg (fun x hx => (hrec x (List.mem_append_left _ hx)).1)
  · rw [hm.vat]
    exact sumOn_nonneg (fun x hx => (hrec x (List.mem_append_left _ hx)).2.1)
  · rw [hm.net, hm.vat, hm.gross,
      sumOn_gross (fun x hx => hrec x (List.mem_append_left _ hx))]
  · rw [hm.gross]
    have hbound := hmax r
    rw [sumOn_append] at hbound
    exact hbound

end Collecting

end VatGroups
