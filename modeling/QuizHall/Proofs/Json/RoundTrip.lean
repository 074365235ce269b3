import QuizHall.Proofs.Json.Tokens

/-!
# Reading Compact Text

The compact text of a value is read back as that value. The reader walks over the tokens with a
stack of what is open, so the statement that carries the induction is about any stack: behind the
tokens of a value the reader stands where `complete` puts it. The stack may not grow beyond the
depth that the reader allows; `Value.depth` says how far a value makes it grow.

## Main results

* `advanceAll_tokens`: the reader takes the tokens of a value for that value, in any context.
* `readWithin_chars`: reading the compact text of a plain value gives the value back.
-/

namespace QuizHall.Json

/-! ### Depth -/

mutual

/-- How many arrays and objects of a value are open at a time, at most. One without anything in
it does not count. -/
def Value.depth : Value → Nat
  | .list (v :: vs) => 1 + max v.depth (itemsDepth vs)
  | .object ((_, v) :: fs) => 1 + max v.depth (fieldsDepth fs)
  | .list [] | .object [] => 0
  | .null | .flag _ | .int _ | .float _ | .text _ => 0

/-- The greatest depth of some items. -/
def itemsDepth : List Value → Nat
  | [] => 0
  | v :: vs => max v.depth (itemsDepth vs)

/-- The greatest depth of some fields. -/
def fieldsDepth : List (String × Value) → Nat
  | [] => 0
  | (_, v) :: fs => max v.depth (fieldsDepth fs)

end

/-! ### The tokens of a value -/

/-- No value begins with a closing bracket. -/
theorem tokens_eq_cons (v : Value) : ∃ t ts, v.tokens = t :: ts ∧ t ≠ .closeList := by
  match v with
  | .null => exact ⟨_, _, by rw [Value.tokens], by simp⟩
  | .flag _ => exact ⟨_, _, by rw [Value.tokens], by simp⟩
  | .int _ => exact ⟨_, _, by rw [Value.tokens], by simp⟩
  | .float _ => exact ⟨_, _, by rw [Value.tokens], by simp⟩
  | .text _ => exact ⟨_, _, by rw [Value.tokens], by simp⟩
  | .list [] => exact ⟨_, _, by rw [Value.tokens], by simp⟩
  | .list (_ :: _) => exact ⟨_, _, by rw [Value.tokens], by simp⟩
  | .object [] => exact ⟨_, _, by rw [Value.tokens], by simp⟩
  | .object ((_, _) :: _) => exact ⟨_, _, by rw [Value.tokens], by simp⟩

/-- Behind an opening bracket a value is read as the first item of the array. -/
theorem advanceAll_first {depth : Nat} {s : List Frame} (h : s.length < depth) (v : Value)
    (ts : List Token) :
    advanceAll depth (.first s) (v.tokens ++ ts) =
      advanceAll depth (.value (.items [] :: s)) (v.tokens ++ ts) := by
  obtain ⟨t, ts', ht, hne⟩ := tokens_eq_cons v
  have hadv : advance depth (.first s) t = advance depth (.value (.items [] :: s)) t := by
    rw [advance, advance]
    · exact if_pos h
    · exact hne
  rw [ht, List.cons_append, advanceAll, advanceAll, hadv]

mutual

/-- **The tokens of a value** are taken for that value, whatever is open around it. -/
theorem advanceAll_tokens {depth : Nat} (s : List Frame) (ts : List Token) :
    ∀ v : Value, s.length + v.depth ≤ depth →
      advanceAll depth (.value s) (v.tokens ++ ts) = advanceAll depth (complete v s) ts
  | .null, _ => by rw [Value.tokens]; rfl
  | .flag _, _ => by rw [Value.tokens]; rfl
  | .int _, _ => by rw [Value.tokens]; rfl
  | .float _, _ => by rw [Value.tokens]; rfl
  | .text _, _ => by rw [Value.tokens]; rfl
  | .list [], _ => by rw [Value.tokens]; rfl
  | .object [], _ => by rw [Value.tokens]; rfl
  | .list (v :: vs), h => by
      rw [Value.depth] at h
      have hs : s.length < depth := by omega
      have hv : (Frame.items [] :: s).length + v.depth ≤ depth := by
        rw [List.length_cons]
        omega
      have hvs : s.length + 1 + itemsDepth vs ≤ depth := by omega
      calc advanceAll depth (.value s) ((Value.list (v :: vs)).tokens ++ ts)
          = advanceAll depth (.first s) (v.tokens ++ (itemsTokens vs ++ ts)) := by
            rw [Value.tokens, List.cons_append, List.append_assoc]
            rfl
        _ = advanceAll depth (.value (.items [] :: s)) (v.tokens ++ (itemsTokens vs ++ ts)) :=
            advanceAll_first hs v _
        _ = advanceAll depth (.afterItem s [v]) (itemsTokens vs ++ ts) :=
            advanceAll_tokens _ _ v hv
        _ = advanceAll depth (complete (.list (v :: vs)) s) ts :=
            advanceAll_itemsTokens s [v] ts vs hvs
  | .object ((n, v) :: fs), h => by
      rw [Value.depth] at h
      have hs : s.length < depth := by omega
      have hv : (Frame.fields [] n :: s).length + v.depth ≤ depth := by
        rw [List.length_cons]
        omega
      have hfs : s.length + 1 + fieldsDepth fs ≤ depth := by omega
      calc advanceAll depth (.value s) ((Value.object ((n, v) :: fs)).tokens ++ ts)
          = advanceAll depth (.value (.fields [] n :: s))
              (v.tokens ++ (fieldsTokens fs ++ ts)) := by
            rw [Value.tokens]
            simp [advanceAll, advance, enter, hs]
        _ = advanceAll depth (.afterField s [(n, v)]) (fieldsTokens fs ++ ts) :=
            advanceAll_tokens _ _ v hv
        _ = advanceAll depth (complete (.object ((n, v) :: fs)) s) ts :=
            advanceAll_fieldsTokens s [(n, v)] ts fs hfs

/-- The tokens of the items after the first one complete the array. -/
theorem advanceAll_itemsTokens {depth : Nat} (s : List Frame) (done : List Value)
    (ts : List Token) :
    ∀ vs : List Value, s.length + 1 + itemsDepth vs ≤ depth →
      advanceAll depth (.afterItem s done) (itemsTokens vs ++ ts) =
        advanceAll depth (complete (.list (done.reverse ++ vs)) s) ts
  | [], _ => by rw [itemsTokens, List.append_nil]; rfl
  | v :: vs, h => by
      rw [itemsDepth] at h
      have hv : (Frame.items done :: s).length + v.depth ≤ depth := by
        rw [List.length_cons]
        omega
      have hvs : s.length + 1 + itemsDepth vs ≤ depth := by omega
      calc advanceAll depth (.afterItem s done) (itemsTokens (v :: vs) ++ ts)
          = advanceAll depth (.value (.items done :: s)) (v.tokens ++ (itemsTokens vs ++ ts)) := by
            rw [itemsTokens, List.cons_append, List.append_assoc]
            rfl
        _ = advanceAll depth (.afterItem s (v :: done)) (itemsTokens vs ++ ts) :=
            advanceAll_tokens _ _ v hv
        _ = advanceAll depth (complete (.list (done.reverse ++ v :: vs)) s) ts := by
            rw [advanceAll_itemsTokens s (v :: done) ts vs hvs, List.reverse_cons,
              List.append_assoc]
            rfl

/-- The tokens of the fields after the first one complete the object. -/
theorem advanceAll_fieldsTokens {depth : Nat} (s : List Frame) (done : List (String × Value))
    (ts : List Token) :
    ∀ fs : List (String × Value), s.length + 1 + fieldsDepth fs ≤ depth →
      advanceAll depth (.afterField s done) (fieldsTokens fs ++ ts) =
        advanceAll depth (complete (.object (done.reverse ++ fs)) s) ts
  | [], _ => by rw [fieldsTokens, List.append_nil]; rfl
  | (n, v) :: fs, h => by
      rw [fieldsDepth] at h
      have hv : (Frame.fields done n :: s).length + v.depth ≤ depth := by
        rw [List.length_cons]
        omega
      have hfs : s.length + 1 + fieldsDepth fs ≤ depth := by omega
      calc advanceAll depth (.afterField s done) (fieldsTokens ((n, v) :: fs) ++ ts)
          = advanceAll depth (.value (.fields done n :: s))
              (v.tokens ++ (fieldsTokens fs ++ ts)) := by
            rw [fieldsTokens, List.cons_append, List.cons_append, List.cons_append,
              List.append_assoc]
            rfl
        _ = advanceAll depth (.afterField s ((n, v) :: done)) (fieldsTokens fs ++ ts) :=
            advanceAll_tokens _ _ v hv
        _ = advanceAll depth (complete (.object (done.reverse ++ (n, v) :: fs)) s) ts := by
            rw [advanceAll_fieldsTokens s ((n, v) :: done) ts fs hfs, List.reverse_cons,
              List.append_assoc]
            rfl

end

/-! ### The round trip -/

/-- **Reading the compact text of a value gives the value back**, if it holds no doubles and stays
within the limits of the reader. -/
theorem readWithin_chars {limits : Limits} {v : Value} (hplain : v.IsPlain limits.width)
    (hdepth : v.depth ≤ limits.depth) : readWithin limits v.chars = some v := by
  have htokens : tokens? limits.width v.chars = some v.tokens := by
    have h : scan limits.width [] .gap (v.chars ++ []) =
        scan limits.width (v.tokens.reverse ++ []) .gap [] :=
      scan_chars [] (by simp [Delimited]) v hplain
    rw [List.append_nil, List.append_nil] at h
    rw [tokens?, h, scan, List.reverse_reverse]
  have hread : advanceAll limits.depth (.value []) v.tokens = some (.finished v) := by
    have h : advanceAll limits.depth (.value []) (v.tokens ++ []) =
        advanceAll limits.depth (complete v []) [] :=
      advanceAll_tokens [] [] v (by simpa using hdepth)
    rwa [List.append_nil] at h
  simp only [readWithin, htokens, hread]

/-- A compact text is read back under the limits that records are read with. -/
theorem read_compact {v : Value} (hplain : v.IsPlain maxWidth) (hdepth : v.depth ≤ 200) :
    read v.compact = some v := by
  rw [read, Value.compact, String.toList_ofList]
  exact readWithin_chars hplain hdepth

end QuizHall.Json
