import Mathlib.Algebra.Order.Ring.Int

/-!
# SHA-256

The hash function of FIPS 180-4 on lists of bytes, with words as natural numbers below `2 ^ 32`.
Everything is structurally recursive, so the kernel can run it. `hexdigest` is the 64-character
lower-case form.
-/

namespace Sha256

/-- The first 32 bits of the fractional parts of the cube roots of the first 64 primes. -/
def roundConstants : List Nat :=
  [0x428a2f98, 0x71374491, 0xb5c0fbcf, 0xe9b5dba5, 0x3956c25b, 0x59f111f1, 0x923f82a4, 0xab1c5ed5,
   0xd807aa98, 0x12835b01, 0x243185be, 0x550c7dc3, 0x72be5d74, 0x80deb1fe, 0x9bdc06a7, 0xc19bf174,
   0xe49b69c1, 0xefbe4786, 0x0fc19dc6, 0x240ca1cc, 0x2de92c6f, 0x4a7484aa, 0x5cb0a9dc, 0x76f988da,
   0x983e5152, 0xa831c66d, 0xb00327c8, 0xbf597fc7, 0xc6e00bf3, 0xd5a79147, 0x06ca6351, 0x14292967,
   0x27b70a85, 0x2e1b2138, 0x4d2c6dfc, 0x53380d13, 0x650a7354, 0x766a0abb, 0x81c2c92e, 0x92722c85,
   0xa2bfe8a1, 0xa81a664b, 0xc24b8b70, 0xc76c51a3, 0xd192e819, 0xd6990624, 0xf40e3585, 0x106aa070,
   0x19a4c116, 0x1e376c08, 0x2748774c, 0x34b0bcb5, 0x391c0cb3, 0x4ed8aa4a, 0x5b9cca4f, 0x682e6ff3,
   0x748f82ee, 0x78a5636f, 0x84c87814, 0x8cc70208, 0x90befffa, 0xa4506ceb, 0xbef9a3f7, 0xc67178f2]

/-- The eight working variables. -/
structure Working where
  (a b c d e f g h : Nat)

/-- The initial hash value. -/
def initial : Working :=
  ⟨0x6a09e667, 0xbb67ae85, 0x3c6ef372, 0xa54ff53a, 0x510e527f, 0x9b05688c, 0x1f83d9ab, 0x5be0cd19⟩

/-- A 32-bit rotation to the right. -/
def rotr (n x : Nat) : Nat := ((x >>> n) ||| (x <<< (32 - n))) % 2 ^ 32

def smallSigma0 (x : Nat) : Nat := rotr 7 x ^^^ rotr 18 x ^^^ (x >>> 3)
def smallSigma1 (x : Nat) : Nat := rotr 17 x ^^^ rotr 19 x ^^^ (x >>> 10)
def bigSigma0 (x : Nat) : Nat := rotr 2 x ^^^ rotr 13 x ^^^ rotr 22 x
def bigSigma1 (x : Nat) : Nat := rotr 6 x ^^^ rotr 11 x ^^^ rotr 25 x
def ch (x y z : Nat) : Nat := (x &&& y) ^^^ ((2 ^ 32 - 1 - x) &&& z)
def maj (x y z : Nat) : Nat := (x &&& y) ^^^ (x &&& z) ^^^ (y &&& z)

/-- One round with constant `k` and schedule word `w`. -/
def round (k w : Nat) (s : Working) : Working :=
  let t₁ := s.h + bigSigma1 s.e + ch s.e s.f s.g + k + w
  let t₂ := bigSigma0 s.a + maj s.a s.b s.c
  ⟨(t₁ + t₂) % 2 ^ 32, s.a, s.b, s.c, (s.d + t₁) % 2 ^ 32, s.e, s.f, s.g⟩

/-- The 64 rounds. `window` holds the next sixteen words of the message schedule; each round uses
the first of them and appends the word sixteen places on. -/
def rounds : List Nat → List Nat → Working → Working
  | k :: ks, w :: window, s =>
    let next := (smallSigma1 (window.getD 13 0) + window.getD 8 0
      + smallSigma0 (window.getD 0 0) + w) % 2 ^ 32
    rounds ks (window ++ [next]) (round k w s)
  | _, _, s => s

/-- The compression function on one block of sixteen words. -/
def compress (s : Working) (block : List Nat) : Working :=
  let r := rounds roundConstants block s
  ⟨(s.a + r.a) % 2 ^ 32, (s.b + r.b) % 2 ^ 32, (s.c + r.c) % 2 ^ 32, (s.d + r.d) % 2 ^ 32,
   (s.e + r.e) % 2 ^ 32, (s.f + r.f) % 2 ^ 32, (s.g + r.g) % 2 ^ 32, (s.h + r.h) % 2 ^ 32⟩

/-- The `count` low bytes of a number, most significant first. -/
def bigEndian (count n : Nat) : List Nat :=
  (List.range count).reverse.map fun i => (n >>> (8 * i)) % 256

/-- A message padded to a multiple of 64 bytes: a one bit, zeros, and the length in bits. -/
def padded (message : List Nat) : List Nat :=
  message ++ 0x80 :: List.replicate ((119 - message.length % 64) % 64) 0
    ++ bigEndian 8 (8 * message.length)

/-- Bytes read as big-endian 32-bit words. -/
def words : List Nat → List Nat
  | a :: b :: c :: d :: rest => (((a * 256 + b) * 256 + c) * 256 + d) :: words rest
  | _ => []

/-- The compression function folded over `count` blocks of words. -/
def blocks : Nat → List Nat → Working → Working
  | 0, _, s => s
  | count + 1, ws, s => blocks count (ws.drop 16) (compress s (ws.take 16))

/-- The hash of a message. -/
def hash (message : List Nat) : Working :=
  let ws := words (padded message)
  blocks (ws.length / 16) ws initial

/-- The hash as eight words. -/
def Working.toList (s : Working) : List Nat :=
  [s.a, s.b, s.c, s.d, s.e, s.f, s.g, s.h]

/-- A lower-case hexadecimal digit. -/
def hexDigit (n : Nat) : Char :=
  if n < 10 then Char.ofNat (48 + n) else Char.ofNat (87 + n)

/-- A word as eight hexadecimal digits. -/
def hexWord (w : Nat) : List Char :=
  [hexDigit (w >>> 28 % 16), hexDigit (w >>> 24 % 16), hexDigit (w >>> 20 % 16),
   hexDigit (w >>> 16 % 16), hexDigit (w >>> 12 % 16), hexDigit (w >>> 8 % 16),
   hexDigit (w >>> 4 % 16), hexDigit (w % 16)]

/-- The hash of a message as 64 hexadecimal digits. -/
def hexdigest (message : List Nat) : List Char :=
  (hash message).toList.flatMap hexWord

@[simp] theorem length_hexdigest (message : List Nat) : (hexdigest message).length = 64 := rfl

/-- A digest is written in hexadecimal digits. -/
theorem mem_hexdigest {message : List Nat} {c : Char} (h : c ∈ hexdigest message) :
    ∃ n < 16, c = hexDigit n := by
  obtain ⟨w, -, hc⟩ := List.mem_flatMap.1 h
  simp only [hexWord, List.mem_cons, List.not_mem_nil, or_false] at hc
  rcases hc with rfl | rfl | rfl | rfl | rfl | rfl | rfl | rfl
  all_goals exact ⟨_, Nat.mod_lt _ (by decide), rfl⟩

/-! ## HMAC -/

/-- The hash of a message as 32 bytes. -/
def digestBytes (message : List Nat) : List Nat :=
  (hash message).toList.flatMap (bigEndian 4)

/-- A key brought to the block size: hashed when it is longer, then filled up with zeros. -/
def keyBlock (key : List Nat) : List Nat :=
  let k := if 64 < key.length then digestBytes key else key
  k ++ List.replicate (64 - k.length) 0

/-- HMAC-SHA-256 (RFC 2104) of a message as 64 hexadecimal digits. -/
def hmacHexdigest (key message : List Nat) : List Char :=
  let block := keyBlock key
  hexdigest (block.map (· ^^^ 0x5c) ++ digestBytes (block.map (· ^^^ 0x36) ++ message))

/-! ## Running in the kernel

The functions above leave a word unevaluated until it is asked for, and reach the arithmetic of the
kernel through the instances of the operators. The functions here evaluate one word after the other,
with the operations that the kernel has built in. -/

/-- `f x`, with `x` evaluated first. -/
def forced {α : Type} (x : Nat) (f : Nat → α) : α :=
  Nat.rec (f 0) (fun n _ => f (Nat.succ n)) x

/-- Evaluating the argument first does not change the value. -/
theorem forced_eq {α : Type} (x : Nat) (f : Nat → α) : forced x f = f x := by cases x <;> rfl

/-- A number modulo `2 ^ 32`. -/
def low (x : Nat) : Nat := Nat.mod x 4294967296

/-- A rotation by `n` to the right; `m` is `32 - n`. -/
def rotate (n m x : Nat) : Nat := low (Nat.lor (Nat.shiftRight x n) (Nat.shiftLeft x m))

/-- The word that enters the window. -/
def nextWord (w₀ w₁ w₉ w₁₄ : Nat) : Nat :=
  low (Nat.add (Nat.add (Nat.add
    (Nat.xor (Nat.xor (rotate 17 15 w₁₄) (rotate 19 13 w₁₄)) (Nat.shiftRight w₁₄ 10)) w₉)
    (Nat.xor (Nat.xor (rotate 7 25 w₁) (rotate 18 14 w₁)) (Nat.shiftRight w₁ 3))) w₀)

/-- The first sum of a round. -/
def firstSum (e f g h k w : Nat) : Nat :=
  Nat.add (Nat.add (Nat.add (Nat.add h
    (Nat.xor (Nat.xor (rotate 6 26 e) (rotate 11 21 e)) (rotate 25 7 e)))
    (Nat.xor (Nat.land e f) (Nat.land (Nat.sub 4294967295 e) g))) k) w

/-- The second sum of a round. -/
def secondSum (a b c : Nat) : Nat :=
  Nat.add (Nat.xor (Nat.xor (rotate 2 30 a) (rotate 13 19 a)) (rotate 22 10 a))
    (Nat.xor (Nat.xor (Nat.land a b) (Nat.land a c)) (Nat.land b c))

/-- `rounds` on a window of sixteen words. -/
def runRounds (ks : List Nat) :
    (w0 w1 w2 w3 w4 w5 w6 w7 w8 w9 w10 w11 w12 w13 w14 w15 a b c d e f g h : Nat) → Working :=
  List.rec (fun _ _ _ _ _ _ _ _ _ _ _ _ _ _ _ _ a b c d e f g h => ⟨a, b, c, d, e, f, g, h⟩)
    (fun k _ ih w0 w1 w2 w3 w4 w5 w6 w7 w8 w9 w10 w11 w12 w13 w14 w15 a b c d e f g h =>
      forced (nextWord w0 w1 w9 w14) fun w16 =>
      forced (firstSum e f g h k w0) fun t₁ =>
      forced (low (Nat.add t₁ (secondSum a b c))) fun a' =>
      forced (low (Nat.add d t₁)) fun e' =>
      ih w1 w2 w3 w4 w5 w6 w7 w8 w9 w10 w11 w12 w13 w14 w15 w16 a' a b c e' e f g) ks

section

variable (w0 w1 w2 w3 w4 w5 w6 w7 w8 w9 w10 w11 w12 w13 w14 w15 : Nat)

/-- One round on a window of sixteen words. -/
theorem rounds_cons (k : Nat) (ks : List Nat) (s : Working) :
    rounds (k :: ks) [w0, w1, w2, w3, w4, w5, w6, w7, w8, w9, w10, w11, w12, w13, w14, w15] s =
      rounds ks [w1, w2, w3, w4, w5, w6, w7, w8, w9, w10, w11, w12, w13, w14, w15,
        (smallSigma1 w14 + w9 + smallSigma0 w1 + w0) % 2 ^ 32] (round k w0 s) := rfl

/-- One round, in the operations of the kernel. -/
theorem runRounds_cons (k : Nat) (ks : List Nat) (a b c d e f g h : Nat) :
    runRounds (k :: ks) w0 w1 w2 w3 w4 w5 w6 w7 w8 w9 w10 w11 w12 w13 w14 w15 a b c d e f g h =
      forced (nextWord w0 w1 w9 w14) fun w16 =>
      forced (firstSum e f g h k w0) fun t₁ =>
      forced (low (Nat.add t₁ (secondSum a b c))) fun a' =>
      forced (low (Nat.add d t₁)) fun e' =>
      runRounds ks w1 w2 w3 w4 w5 w6 w7 w8 w9 w10 w11 w12 w13 w14 w15 w16 a' a b c e' e f g := rfl

/-- `runRounds` is `rounds`. -/
theorem runRounds_eq (ks : List Nat) (s : Working) :
    runRounds ks w0 w1 w2 w3 w4 w5 w6 w7 w8 w9 w10 w11 w12 w13 w14 w15
        s.a s.b s.c s.d s.e s.f s.g s.h =
      rounds ks [w0, w1, w2, w3, w4, w5, w6, w7, w8, w9, w10, w11, w12, w13, w14, w15] s := by
  induction ks generalizing w0 w1 w2 w3 w4 w5 w6 w7 w8 w9 w10 w11 w12 w13 w14 w15 s with
  | nil => rfl
  | cons k ks ih =>
    rw [runRounds_cons, rounds_cons, ← ih, round]
    simp only [forced_eq]
    rfl

end

/-- `f` on the sums of two blocks of working variables. -/
def runSum {α : Type} (s r : Working) (f : Working → α) : α :=
  match r with
  | ⟨ra, rb, rc, rd, re, rf, rg, rh⟩ =>
    forced (low (Nat.add s.a ra)) fun a => forced (low (Nat.add s.b rb)) fun b =>
    forced (low (Nat.add s.c rc)) fun c => forced (low (Nat.add s.d rd)) fun d =>
    forced (low (Nat.add s.e re)) fun e => forced (low (Nat.add s.f rf)) fun f' =>
    forced (low (Nat.add s.g rg)) fun g => forced (low (Nat.add s.h rh)) fun h =>
    f ⟨a, b, c, d, e, f', g, h⟩

/-- Adding the rounds to the working variables is `compress`. -/
theorem runSum_rounds {α : Type} (s : Working) (block : List Nat) (f : Working → α) :
    runSum s (rounds roundConstants block s) f = f (compress s block) := by
  unfold compress
  generalize rounds roundConstants block s = r
  cases r
  simp only [runSum, forced_eq]
  rfl

/-- `blocks`. -/
def runBlocks : Nat → List Nat → Working → Working
  | count + 1, w0 :: w1 :: w2 :: w3 :: w4 :: w5 :: w6 :: w7 :: w8 :: w9 :: w10 :: w11 :: w12 ::
      w13 :: w14 :: w15 :: rest, s =>
    runSum s (runRounds roundConstants w0 w1 w2 w3 w4 w5 w6 w7 w8 w9 w10 w11 w12 w13 w14 w15
      s.a s.b s.c s.d s.e s.f s.g s.h) fun s => runBlocks count rest s
  | _, _, s => s

/-- `runBlocks` is `blocks`, where there are words enough. -/
theorem runBlocks_eq {count : Nat} {ws : List Nat} {s : Working} (h : 16 * count ≤ ws.length) :
    runBlocks count ws s = blocks count ws s := by
  induction count generalizing ws s with
  | zero => rw [blocks, runBlocks.eq_2 _ _ _ (by simp)]
  | succ count ih =>
    match ws, h with
    | w0 :: w1 :: w2 :: w3 :: w4 :: w5 :: w6 :: w7 :: w8 :: w9 :: w10 :: w11 :: w12 :: w13 ::
        w14 :: w15 :: rest, h =>
      have hrest : 16 * count ≤ rest.length := by
        simp only [List.length_cons] at h
        omega
      have htake : (w0 :: w1 :: w2 :: w3 :: w4 :: w5 :: w6 :: w7 :: w8 :: w9 :: w10 :: w11 ::
          w12 :: w13 :: w14 :: w15 :: rest).take 16 =
        [w0, w1, w2, w3, w4, w5, w6, w7, w8, w9, w10, w11, w12, w13, w14, w15] := rfl
      have hdrop : (w0 :: w1 :: w2 :: w3 :: w4 :: w5 :: w6 :: w7 :: w8 :: w9 :: w10 :: w11 ::
          w12 :: w13 :: w14 :: w15 :: rest).drop 16 = rest := rfl
      rw [runBlocks, blocks, htake, hdrop, runRounds_eq, runSum_rounds, ih hrest]

/-- `words`, where `acc` holds the `phase` bytes since the last word. -/
def runWords (bytes : List Nat) : Nat → Nat → List Nat :=
  List.rec (fun _ _ => []) (fun b _ ih phase acc =>
    forced (Nat.add (Nat.mul acc 256) b) fun acc =>
      bif Nat.beq phase 3 then acc :: ih 0 0 else ih (Nat.succ phase) acc) bytes

/-- Every fourth byte completes a word. -/
theorem runWords_cons (b : Nat) (bytes : List Nat) (phase acc : Nat) :
    runWords (b :: bytes) phase acc = if phase = 3 then
      (acc * 256 + b) :: runWords bytes 0 0 else runWords bytes (phase + 1) (acc * 256 + b) := by
  have hstep : runWords (b :: bytes) phase acc = forced (Nat.add (Nat.mul acc 256) b) fun acc =>
    bif Nat.beq phase 3 then acc :: runWords bytes 0 0
    else runWords bytes (Nat.succ phase) acc := rfl
  rw [hstep, forced_eq]
  cases hphase : Nat.beq phase 3 with
  | true =>
    rw [if_pos (Nat.eq_of_beq_eq_true hphase)]
    rfl
  | false =>
    rw [if_neg (Nat.ne_of_beq_eq_false hphase)]
    rfl

/-- `runWords` is `words`. -/
theorem runWords_eq (bytes : List Nat) : runWords bytes 0 0 = words bytes := by
  fun_induction words bytes with
  | case1 a b c d rest ih => simp [runWords_cons, ih]
  | case2 bytes h =>
    match bytes, h with
    | [], _ => rfl
    | [_], _ | [_, _], _ | [_, _, _], _ =>
      simp [runWords_cons]
      rfl
    | a :: b :: c :: d :: rest, h => exact absurd rfl (h a b c d rest)

/-- `message ++ rest`. -/
def appended (message rest : List Nat) : List Nat := List.rec rest (fun b _ ih => b :: ih) message

/-- `appended` is the concatenation. -/
theorem appended_eq (message rest : List Nat) : appended message rest = message ++ rest := by
  induction message with
  | nil => rfl
  | cons b message ih => exact congrArg (b :: ·) ih

/-- `message.length`. -/
def counted (message : List Nat) : Nat → Nat :=
  List.rec (fun n => n) (fun _ _ ih n => forced (Nat.succ n) ih) message

/-- `counted` adds the length. -/
theorem counted_eq (message : List Nat) (n : Nat) : counted message n = message.length + n := by
  induction message generalizing n with
  | nil => exact (Nat.zero_add n).symm
  | cons b message ih =>
    have hstep : counted (b :: message) n = forced (Nat.succ n) (counted message) := rfl
    rw [hstep, forced_eq, ih, List.length_cons]
    omega

/-- Four bytes are a word. -/
theorem length_words (bytes : List Nat) : (words bytes).length = bytes.length / 4 := by
  fun_induction words bytes with
  | case1 a b c d rest ih =>
    simp only [List.length_cons, ih]
    omega
  | case2 bytes h =>
    match bytes, h with
    | [], _ | [_], _ | [_, _], _ | [_, _, _], _ => simp
    | a :: b :: c :: d :: rest, h => exact absurd rfl (h a b c d rest)

/-- `hash`. -/
def runHash (message : List Nat) : Working :=
  forced (counted message 0) fun length => forced ((length + 8) / 64 + 1) fun count =>
    runBlocks count (runWords (appended message
      (0x80 :: List.replicate ((119 - length % 64) % 64) 0 ++ bigEndian 8 (8 * length))) 0 0) initial

/-- `runHash` is `hash`. -/
theorem runHash_eq (message : List Nat) : runHash message = hash message := by
  have hpadded : (padded message).length = 64 * ((message.length + 8) / 64 + 1) := by
    simp only [padded, bigEndian, List.length_append, List.length_cons, List.length_replicate,
      List.length_map, List.length_reverse, List.length_range]
    omega
  have hwords : (words (padded message)).length = 16 * ((message.length + 8) / 64 + 1) := by
    rw [length_words, hpadded]
    omega
  have hcount : (words (padded message)).length / 16 = (message.length + 8) / 64 + 1 := by omega
  unfold runHash hash
  dsimp only
  rw [hcount, forced_eq, forced_eq, counted_eq, appended_eq, runWords_eq, Nat.add_zero,
    ← List.append_assoc]
  exact runBlocks_eq hwords.ge

/-- `hexdigest`. -/
def runHexdigest (message : List Nat) : List Char :=
  match runHash message with
  | ⟨a, b, c, d, e, f, g, h⟩ => [a, b, c, d, e, f, g, h].flatMap hexWord

/-- `runHexdigest` is `hexdigest`. -/
theorem runHexdigest_eq (message : List Nat) : runHexdigest message = hexdigest message := by
  unfold runHexdigest hexdigest
  rw [runHash_eq]
  rfl

/-- `hmacHexdigest`. -/
def runHmacHexdigest (key message : List Nat) : List Char :=
  let block := keyBlock key
  runHexdigest (block.map (· ^^^ 0x5c) ++
    (runHash (block.map (· ^^^ 0x36) ++ message)).toList.flatMap (bigEndian 4))

/-- `runHmacHexdigest` is `hmacHexdigest`. -/
theorem runHmacHexdigest_eq (key message : List Nat) :
    runHmacHexdigest key message = hmacHexdigest key message := by
  unfold runHmacHexdigest hmacHexdigest
  simp only [runHexdigest_eq, runHash_eq]
  rfl

example : (hash [97, 98, 99]).toList = [0xba7816bf, 0x8f01cfea, 0x414140de, 0x5dae2223, 0xb00361a3,
    0x96177a9c, 0xb410ff61, 0xf20015ad] := by decide +kernel

end Sha256
