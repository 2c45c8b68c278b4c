/-
The fifteen standard curves.

Each is given by its field, the two coefficients of its equation, the coordinates of its base
point and the order of that point; for a binary field also by the cofactor, which is one for
every curve over a prime field.
-/
import EcdsaVectors.CurveName
import EcdsaVectors.Domain
namespace EcdsaVectors.Domain

/-- The number that is written in two rows of digits, of which the second has 256 bits. -/
def wide (high low : Nat) : Nat := high <<< 256 + low

/-- The curve over the prime field of 192 bits. -/
def p192 : Domain := .overPrime
  0xfffffffffffffffffffffffffffffffeffffffffffffffff
  0xfffffffffffffffffffffffffffffffefffffffffffffffc
  0x64210519e59c80e70fa7e9ab72243049feb8deecc146b9b1
  0x188da80eb03090f67cbf20eb43a18800f4ff0afd82ff1012
  0x7192b95ffc8da78631011ed6b24cdd573f977a11e794811
  0xffffffffffffffffffffffff99def836146bc9b1b4d22831

/-- The curve over the prime field of 224 bits. -/
def p224 : Domain := .overPrime
  0xffffffffffffffffffffffffffffffff000000000000000000000001
  0xfffffffffffffffffffffffffffffffefffffffffffffffffffffffe
  0xb4050a850c04b3abf54132565044b0b7d7bfd8ba270b39432355ffb4
  0xb70e0cbd6bb4bf7f321390b94a03c1d356c21122343280d6115c1d21
  0xbd376388b5f723fb4c22dfe6cd4375a05a07476444d5819985007e34
  0xffffffffffffffffffffffffffff16a2e0b8f03e13dd29455c5c2a3d

/-- The curve over the prime field of 256 bits. -/
def p256 : Domain := .overPrime
  0xffffffff00000001000000000000000000000000ffffffffffffffffffffffff
  0xffffffff00000001000000000000000000000000fffffffffffffffffffffffc
  0x5ac635d8aa3a93e7b3ebbd55769886bc651d06b0cc53b0f63bce3c3e27d2604b
  0x6b17d1f2e12c4247f8bce6e563a440f277037d812deb33a0f4a13945d898c296
  0x4fe342e2fe1a7f9b8ee7eb4a7c0f9e162bce33576b315ececbb6406837bf51f5
  0xffffffff00000000ffffffffffffffffbce6faada7179e84f3b9cac2fc632551

/-- The curve over the prime field of 384 bits. -/
def p384 : Domain := .overPrime
  0xfffffffffffffffffffffffffffffffffffffffffffffffffffffffffffffffeffffffff0000000000000000ffffffff
  0xfffffffffffffffffffffffffffffffffffffffffffffffffffffffffffffffeffffffff0000000000000000fffffffc
  0xb3312fa7e23ee7e4988e056be3f82d19181d9c6efe8141120314088f5013875ac656398d8a2ed19d2a85c8edd3ec2aef
  0xaa87ca22be8b05378eb1c71ef320ad746e1d3b628ba79b9859f741e082542a385502f25dbf55296c3a545e3872760ab7
  0x3617de4a96262c6f5d9e98bf9292dc29f8f41dbd289a147ce9da3113b5f0b8c00a60b1ce1d7e819d7a431d7c90ea0e5f
  0xffffffffffffffffffffffffffffffffffffffffffffffffc7634d81f4372ddf581a0db248b0a77aecec196accc52973

/-- The curve over the prime field of 521 bits. -/
def p521 : Domain := .overPrime
  (wide 0x1ffffffffffffffffffffffffffffffffffffffffffffffffffffffffffffffffff
    0xffffffffffffffffffffffffffffffffffffffffffffffffffffffffffffffff)
  (wide 0x1ffffffffffffffffffffffffffffffffffffffffffffffffffffffffffffffffff
    0xfffffffffffffffffffffffffffffffffffffffffffffffffffffffffffffffc)
  (wide 0x51953eb9618e1c9a1f929a21a0b68540eea2da725b99b315f3b8b489918ef109e1
    0x56193951ec7e937b1652c0bd3bb1bf073573df883d2c34f1ef451fd46b503f00)
  (wide 0xc6858e06b70404e9cd9e3ecb662395b4429c648139053fb521f828af606b4d3dba
    0xa14b5e77efe75928fe1dc127a2ffa8de3348b3c1856a429bf97e7e31c2e5bd66)
  (wide 0x11839296a789a3bc0045c8a5fb42c7d1bd998f54449579b446817afbd17273e662c
    0x97ee72995ef42640c550b9013fad0761353c7086a272c24088be94769fd16650)
  (wide 0x1fffffffffffffffffffffffffffffffffffffffffffffffffffffffffffffffffa
    0x51868783bf2f966b7fcc0148f709a5d03bb5c9b8899c47aebb6fb71e91386409)

/-- The Koblitz curve over the binary field of 163 bits. -/
def k163 : Domain := .overBinary (.ofExponents 163 [7, 6, 3, 0])
  1
  1
  0x2fe13c0537bbc11acaa07d793de4e6d5e5c94eee8
  0x289070fb05d38ff58321f2e800536d538ccdaa3d9
  0x4000000000000000000020108a2e0cc0d99f8a5ef
  2

/-- The Koblitz curve over the binary field of 233 bits. -/
def k233 : Domain := .overBinary (.ofExponents 233 [74, 0])
  0
  1
  0x17232ba853a7e731af129f22ff4149563a419c26bf50a4c9d6eefad6126
  0x1db537dece819b7f70f555a67c427a8cd9bf18aeb9b56e0c11056fae6a3
  0x8000000000000000000000000000069d5bb915bcd46efb1ad5f173abdf
  4

/-- The Koblitz curve over the binary field of 283 bits. -/
def k283 : Domain := .overBinary (.ofExponents 283 [12, 7, 5, 0])
  0
  1
  0x503213f78ca44883f1a3b8162f188e553cd265f23c1567a16876913b0c2ac2458492836
  0x1ccda380f1c9e318d90f95d07e5426fe87e45c0e8184698e45962364e34116177dd2259
  0x1ffffffffffffffffffffffffffffffffffe9ae2ed07577265dff7f94451e061e163c61
  4

/-- The Koblitz curve over the binary field of 409 bits. -/
def k409 : Domain := .overBinary (.ofExponents 409 [87, 0])
  0
  1
  (wide 0x60f05f658f49c1ad3ab1890f7184210efd0987
    0xe307c84c27accfb8f9f67cc2c460189eb5aaaa62ee222eb1b35540cfe9023746)
  (wide 0x1e369050b7c4e42acba1dacbf04299c3460782f
    0x918ea427e6325165e9ea10e3da5f6c42e9c55215aa9ca27a5863ec48d8e0286b)
  (wide 0x7fffffffffffffffffffffffffffffffffffff
    0xfffffffffffffe5f83b2d4ea20400ec4557d5ed3e3e7ca5b4b5c83b8e01e5fcf)
  4

/-- The Koblitz curve over the binary field of 571 bits. -/
def k571 : Domain := .overBinary (.ofExponents 571 [10, 5, 2, 0])
  0
  1
  (wide 0x26eb7a859923fbc82189631f8103fe4ac9ca2970012d5d46024804801841ca44370958493b205e6
    0x47da304db4ceb08cbbd1ba39494776fb988b47174dca88c7e2945283a01c8972)
  (wide 0x349dc807f4fbf374f4aeade3bca95314dd58cec9f307a54ffc61efc006d8a2c9d4979c0ac44aea7
    0x4fbebbb9f772aedcb620b01a7ba7af1b320430c8591984f601cd4c143ef1c7a3)
  (wide 0x20000000000000000000000000000000000000000000000000000000000000000000000131850e1
    0xf19a63e4b391a8db917f4138b630d84be5d639381e91deb45cfe778f637c1001)
  4

/-- The pseudo-random curve over the binary field of 163 bits. -/
def b163 : Domain := .overBinary (.ofExponents 163 [7, 6, 3, 0])
  1
  0x20a601907b8c953ca1481eb10512f78744a3205fd
  0x3f0eba16286a2d57ea0991168d4994637e8343e36
  0xd51fbc6c71a0094fa2cdd545b11c5c0c797324f1
  0x40000000000000000000292fe77e70c12a4234c33
  2

/-- The pseudo-random curve over the binary field of 233 bits. -/
def b233 : Domain := .overBinary (.ofExponents 233 [74, 0])
  1
  0x66647ede6c332c7f8c0923bb58213b333b20e9ce4281fe115f7d8f90ad
  0xfac9dfcbac8313bb2139f1bb755fef65bc391f8b36f8f8eb7371fd558b
  0x1006a08a41903350678e58528bebf8a0beff867a7ca36716f7e01f81052
  0x1000000000000000000000000000013e974e72f8a6922031d2603cfe0d7
  2

/-- The pseudo-random curve over the binary field of 283 bits. -/
def b283 : Domain := .overBinary (.ofExponents 283 [12, 7, 5, 0])
  1
  0x27b680ac8b8596da5a4af8a19a0303fca97fd7645309fa2a581485af6263e313b79a2f5
  0x5f939258db7dd90e1934f8c70b0dfec2eed25b8557eac9c80e2e198f8cdbecd86b12053
  0x3676854fe24141cb98fe6d4b20d02b4516ff702350eddb0826779c813f0df45be8112f4
  0x3ffffffffffffffffffffffffffffffffffef90399660fc938a90165b042a7cefadb307
  2

/-- The pseudo-random curve over the binary field of 409 bits. -/
def b409 : Domain := .overBinary (.ofExponents 409 [87, 0])
  1
  (wide 0x21a5c2c8ee9feb5c4b9a753b7b476b7fd6422e
    0xf1f3dd674761fa99d6ac27c8a9a197b272822f6cd57a55aa4f50ae317b13545f)
  (wide 0x15d4860d088ddb3496b0c6064756260441cde4a
    0xf1771d4db01ffe5b34e59703dc255a868a1180515603aeab60794e54bb7996a7)
  (wide 0x61b1cfab6be5f32bbfa78324ed106a7636b9c5
    0xa7bd198d0158aa4f5488d08f38514f1fdf4b4f40d2181b3681c364ba0273c706)
  (wide 0x100000000000000000000000000000000000000
    0x00000000000001e2aad6a612f33307be5fa47c3c9e052f838164cd37d9a21173)
  2

/-- The pseudo-random curve over the binary field of 571 bits. -/
def b571 : Domain := .overBinary (.ofExponents 571 [10, 5, 2, 0])
  1
  (wide 0x2f40e7e2221f295de297117b7f3d62f5c6a97ffcb8ceff1cd6ba8ce4a9a18ad84ffabbd8efa5933
    0x2be7ad6756a66e294afd185a78ff12aa520e4de739baca0c7ffeff7f2955727a)
  (wide 0x303001d34b856296c16c0d40d3cd7750a93d1d2955fa80aa5f40fc8db7b2abdbde53950f4c0d293
    0xcdd711a35b67fb1499ae60038614f1394abfa3b4c850d927e1e7769c8eec2d19)
  (wide 0x37bf27342da639b6dccfffeb73d69d78c6c27a6009cbbca1980f8533921e8a684423e43bab08a57
    0x6291af8f461bb2a8b3531d2f0485c19b16e2f1516e23dd3c1a4827af1b8ac15b)
  (wide 0x3ffffffffffffffffffffffffffffffffffffffffffffffffffffffffffffffffffffffe661ce18
    0xff55987308059b186823851ec7dd9ca1161de93d5174d66e8382e9bb2fe84e47)
  2

/-- The domain that a name stands for. -/
def standard : CurveName → Domain
  | .p192 => p192
  | .p224 => p224
  | .p256 => p256
  | .p384 => p384
  | .p521 => p521
  | .k163 => k163
  | .k233 => k233
  | .k283 => k283
  | .k409 => k409
  | .k571 => k571
  | .b163 => b163
  | .b233 => b233
  | .b283 => b283
  | .b409 => b409
  | .b571 => b571

end EcdsaVectors.Domain
