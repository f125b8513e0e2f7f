/-!
# Arithmetic modulo a number
-/

namespace DirectoryClient.Tls.Modular

/-- The power of a number modulo `m`, by squaring. -/
def power (m base exponent : Nat) : Nat :=
  if exponent = 0 then 1 % m
  else
    let half := power m (base * base % m) (exponent / 2)
    if exponent % 2 = 1 then base * half % m else half
termination_by exponent

def sub (m a b : Nat) : Nat := (a + (m - b % m)) % m

/-- The inverse of a number modulo a prime. -/
def inverse (p a : Nat) : Nat := power p a (p - 2)

/-- How many binary digits a number has. -/
def bitLength (n : Nat) : Nat := if n = 0 then 0 else n.log2 + 1

end DirectoryClient.Tls.Modular
