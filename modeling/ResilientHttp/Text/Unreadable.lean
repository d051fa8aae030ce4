import ResilientHttp.Text.CodeTable

/-!
# Characters that cannot be seen

Some characters show nothing of their own: control and format characters, blanks other than the
space, and code points without a character. Others only alter the look of the character before them.
Where a text is shown to a reader neither can be told apart from its surroundings.
-/

set_option autoImplicit false

namespace ResilientHttp.Text

/-- The characters beyond ASCII that cannot be seen on their own, of kind `U`. -/
def unreadableTable : CodeTable := CodeTable.ofText
  "7f-a0U adU 300-36fU 378-379U 380-383U 38bU 38dU 3a2U 483-489U 530U 557-558U 58b-58cU 590-5bdU 5bfU
5c1-5c2U 5c4-5c5U 5c7-5cfU 5eb-5eeU 5f5-605U 610-61aU 61cU 64b-65fU 670U 6d6-6ddU 6df-6e4U
6e7-6e8U 6ea-6edU 70e-70fU 711U 730-74cU 7a6-7b0U 7b2-7bfU 7eb-7f3U 7fb-7fdU 816-819U 81b-823U
825-827U 829-82fU 83fU 859-85dU 85fU 86b-86fU 890-89fU 8ca-902U 93aU 93cU 941-948U 94dU 951-957U
962-963U 981U 984U 98d-98eU 991-992U 9a9U 9b1U 9b3-9b5U 9ba-9bcU 9beU 9c1-9c6U 9c9-9caU 9cdU
9cf-9dbU 9deU 9e2-9e5U 9fe-a02U a04U a0b-a0eU a11-a12U a29U a31U a34U a37U a3a-a3dU a41-a58U a5dU
a5f-a65U a70-a71U a75U a77-a82U a84U a8eU a92U aa9U ab1U ab4U aba-abcU ac1-ac8U acaU acd-acfU
ad1-adfU ae2-ae5U af2-af8U afa-b01U b04U b0d-b0eU b11-b12U b29U b31U b34U b3a-b3cU b3e-b3fU
b41-b46U b49-b4aU b4d-b5bU b5eU b62-b65U b78-b82U b84U b8b-b8dU b91U b96-b98U b9bU b9dU ba0-ba2U
ba5-ba7U bab-badU bba-bbeU bc0U bc3-bc5U bc9U bcd-bcfU bd1-be5U bfb-c00U c04U c0dU c11U c29U
c3a-c3cU c3e-c40U c45-c57U c5bU c5e-c5fU c62-c65U c70-c76U c81U c8dU c91U ca9U cb4U cba-cbcU
cbf-cc0U cc2U cc5-cdbU cdfU ce2-ce5U cf0U cf4-d01U d0dU d11U d3b-d3cU d3eU d41-d45U d49U d4dU
d50-d53U d57U d62-d65U d80-d81U d84U d97-d99U db2U dbcU dbe-dbfU dc7-dcfU dd2-dd7U ddf-de5U
df0-df1U df5-e00U e31U e34-e3eU e47-e4eU e5c-e80U e83U e85U e8bU ea4U ea6U eb1U eb4-ebcU ebe-ebfU
ec5U ec7-ecfU eda-edbU ee0-effU f18-f19U f35U f37U f39U f48U f6d-f7eU f80-f84U f86-f87U f8d-fbdU
fc6U fcdU fdb-fffU 102d-1030U 1032-1037U 1039-103aU 103d-103eU 1058-1059U 105e-1060U 1071-1074U
1082U 1085-1086U 108dU 109dU 10c6U 10c8-10ccU 10ce-10cfU 1249U 124e-124fU 1257U 1259U 125e-125fU
1289U 128e-128fU 12b1U 12b6-12b7U 12bfU 12c1U 12c6-12c7U 12d7U 1311U 1316-1317U 135b-135fU
137d-137fU 139a-139fU 13f6-13f7U 13fe-13ffU 1680U 169d-169fU 16f9-16ffU 1712-171eU 1732-1734U
1737-173fU 1752-175fU 176dU 1771-177fU 17b4-17b5U 17b7-17bdU 17c6U 17c9-17d3U 17dd-17dfU
17ea-17efU 17fa-17ffU 180b-180fU 181a-181fU 1879-187fU 1885-1886U 18a9U 18ab-18afU 18f6-18ffU
191f-1922U 1927-1928U 192c-192fU 1932U 1939-193fU 1941-1943U 196e-196fU 1975-197fU 19ac-19afU
19ca-19cfU 19db-19ddU 1a17-1a18U 1a1b-1a1dU 1a56U 1a58-1a60U 1a62U 1a65-1a6cU 1a73-1a7fU
1a8a-1a8fU 1a9a-1a9fU 1aae-1b03U 1b34-1b3dU 1b42-1b44U 1b4dU 1b6b-1b73U 1b80-1b81U 1ba2-1ba5U
1ba8-1badU 1be6U 1be8-1be9U 1bedU 1bef-1bfbU 1c2c-1c33U 1c36-1c3aU 1c4a-1c4cU 1c8b-1c8fU
1cbb-1cbcU 1cc8-1cd2U 1cd4-1ce0U 1ce2-1ce8U 1cedU 1cf4U 1cf8-1cf9U 1cfb-1cffU 1dc0-1dffU
1f16-1f17U 1f1e-1f1fU 1f46-1f47U 1f4e-1f4fU 1f58U 1f5aU 1f5cU 1f5eU 1f7e-1f7fU 1fb5U 1fc5U
1fd4-1fd5U 1fdcU 1ff0-1ff1U 1ff5U 1fff-200fU 2028-202fU 205f-206fU 2072-2073U 208fU 209d-209fU
20c2-20ffU 218c-218fU 242a-243fU 244b-245fU 2b74-2b75U 2cef-2cf1U 2cf4-2cf8U 2d26U 2d28-2d2cU
2d2e-2d2fU 2d68-2d6eU 2d71-2d7fU 2d97-2d9fU 2da7U 2dafU 2db7U 2dbfU 2dc7U 2dcfU 2dd7U 2ddf-2dffU
2e5e-2e7fU 2e9aU 2ef4-2effU 2fd6-2fefU 3000U 302a-302fU 3040U 3097-309aU 3100-3104U 3130U 318fU
31e6-31eeU 321fU a48d-a48fU a4c7-a4cfU a62c-a63fU a66f-a672U a674-a67dU a69e-a69fU a6f0-a6f1U
a6f8-a6ffU a7dd-a7f0U a802U a806U a80bU a825-a826U a82c-a82fU a83a-a83fU a878-a87fU a8c4-a8cdU
a8da-a8f1U a8ffU a926-a92dU a947-a951U a953-a95eU a97d-a982U a9b3U a9b6-a9b9U a9bc-a9bdU a9c0U
a9ceU a9da-a9ddU a9e5U a9ffU aa29-aa2eU aa31-aa32U aa35-aa3fU aa43U aa4cU aa4e-aa4fU aa5a-aa5bU
aa7cU aab0U aab2-aab4U aab7-aab8U aabe-aabfU aac1U aac3-aadaU aaec-aaedU aaf6-ab00U ab07-ab08U
ab0f-ab10U ab17-ab1fU ab27U ab2fU ab6c-ab6fU abe5U abe8U abed-abefU abfa-abffU d7a4-d7afU
d7c7-d7caU d7fc-f8ffU fa6e-fa6fU fada-faffU fb07-fb12U fb18-fb1cU fb1eU fb37U fb3dU fb3fU fb42U
fb45U fdd0-fdefU fe00-fe0fU fe1a-fe2fU fe53U fe67U fe6c-fe6fU fe75U fefd-ff00U ff9e-ff9fU
ffbf-ffc1U ffc8-ffc9U ffd0-ffd1U ffd8-ffd9U ffdd-ffdfU ffe7U ffef-fffbU fffe-ffffU 1000cU 10027U
1003bU 1003eU 1004e-1004fU 1005e-1007fU 100fb-100ffU 10103-10106U 10134-10136U 1018fU 1019d-1019fU
101a1-101cfU 101fd-1027fU 1029d-1029fU 102d1-102e0U 102fc-102ffU 10324-1032cU 1034b-1034fU
10376-1037fU 1039eU 103c4-103c7U 103d6-103ffU 1049e-1049fU 104aa-104afU 104d4-104d7U 104fc-104ffU
10528-1052fU 10564-1056eU 1057bU 1058bU 10593U 10596U 105a2U 105b2U 105baU 105bd-105bfU
105f4-105ffU 10737-1073fU 10756-1075fU 10768-1077fU 10786U 107b1U 107bb-107ffU 10806-10807U 10809U
10836U 10839-1083bU 1083d-1083eU 10856U 1089f-108a6U 108b0-108dfU 108f3U 108f6-108faU 1091c-1091eU
1093a-1093eU 1095a-1097fU 109b8-109bbU 109d0-109d1U 10a01-10a0fU 10a14U 10a18U 10a36-10a3fU
10a49-10a4fU 10a59-10a5fU 10aa0-10abfU 10ae5-10aeaU 10af7-10affU 10b36-10b38U 10b56-10b57U
10b73-10b77U 10b92-10b98U 10b9d-10ba8U 10bb0-10bffU 10c49-10c7fU 10cb3-10cbfU 10cf3-10cf9U
10d24-10d2fU 10d3a-10d3fU 10d66-10d6dU 10d86-10d8dU 10d90-10e5fU 10e7fU 10eaa-10eacU 10eae-10eafU
10eb2-10ec1U 10ec8-10ecfU 10ed9-10effU 10f28-10f2fU 10f46-10f50U 10f5a-10f6fU 10f82-10f85U
10f8a-10fafU 10fcc-10fdfU 10ff7-10fffU 11001U 11038-11046U 1104e-11051U 11070U 11073-11074U
11076-11081U 110b3-110b6U 110b9-110baU 110bdU 110c2-110cfU 110e9-110efU 110fa-11102U 11127-1112bU
1112d-11135U 11148-1114fU 11173U 11177-11181U 111b6-111beU 111c0U 111c9-111ccU 111cfU 111e0U
111f5-111ffU 11212U 1122f-11231U 11234-11237U 1123eU 11241-1127fU 11287U 11289U 1128eU 1129eU
112aa-112afU 112dfU 112e3-112efU 112fa-11301U 11304U 1130d-1130eU 11311-11312U 11329U 11331U
11334U 1133a-1133cU 1133eU 11340U 11345-11346U 11349-1134aU 1134d-1134fU 11351-1135cU 11364-1137fU
1138aU 1138c-1138dU 1138fU 113b6U 113b8U 113bb-113c9U 113cbU 113ce-113d0U 113d2U 113d6U
113d9-113ffU 11438-1143fU 11442-11444U 11446U 1145cU 1145eU 11462-1147fU 114b0U 114b3-114b8U
114baU 114bdU 114bf-114c0U 114c2-114c3U 114c8-114cfU 114da-1157fU 115afU 115b2-115b7U 115bc-115bdU
115bf-115c0U 115dc-115ffU 11633-1163aU 1163dU 1163f-11640U 11645-1164fU 1165a-1165fU 1166d-1167fU
116abU 116adU 116b0-116b7U 116ba-116bfU 116ca-116cfU 116e4-116ffU 1171b-1171dU 1171fU 11722-11725U
11727-1172fU 11747-117ffU 1182f-11837U 11839-1183aU 1183c-1189fU 118f3-118feU 11907-11908U
1190a-1190bU 11914U 11917U 11930U 11936U 11939-1193eU 11943U 11947-1194fU 1195a-1199fU
119a8-119a9U 119d4-119dbU 119e0U 119e5-119ffU 11a01-11a0aU 11a33-11a38U 11a3b-11a3eU 11a47-11a4fU
11a51-11a56U 11a59-11a5bU 11a8a-11a96U 11a98-11a99U 11aa3-11aafU 11af9-11affU 11b0a-11b60U
11b62-11b64U 11b66U 11b68-11bbfU 11be2-11befU 11bfa-11bffU 11c09U 11c30-11c3dU 11c3fU 11c46-11c4fU
11c6d-11c6fU 11c90-11ca8U 11caa-11cb0U 11cb2-11cb3U 11cb5-11cffU 11d07U 11d0aU 11d31-11d45U
11d47-11d4fU 11d5a-11d5fU 11d66U 11d69U 11d8f-11d92U 11d95U 11d97U 11d99-11d9fU 11daa-11dafU
11ddc-11ddfU 11dea-11edfU 11ef3-11ef4U 11ef9-11f01U 11f11U 11f36-11f3dU 11f40-11f42U 11f5a-11fafU
11fb1-11fbfU 11ff2-11ffeU 1239a-123ffU 1246fU 12475-1247fU 12544-12f8fU 12ff3-12fffU 13430-13440U
13447-1345fU 143fb-143ffU 14647-160ffU 1611e-16129U 1612d-1612fU 1613a-167ffU 16a39-16a3fU 16a5fU
16a6a-16a6dU 16abfU 16aca-16acfU 16aee-16af4U 16af6-16affU 16b30-16b36U 16b46-16b4fU 16b5aU 16b62U
16b78-16b7cU 16b90-16d3fU 16d7a-16e3fU 16e9b-16e9fU 16eb9-16ebaU 16ed4-16effU 16f4b-16f4fU
16f88-16f92U 16fa0-16fdfU 16fe4-16ff1U 16ff7-16fffU 18cd6-18cfeU 18d1f-18d7fU 18df3-1afefU 1aff4U
1affcU 1afffU 1b123-1b131U 1b133-1b14fU 1b153-1b154U 1b156-1b163U 1b168-1b16fU 1b2fc-1bbffU
1bc6b-1bc6fU 1bc7d-1bc7fU 1bc89-1bc8fU 1bc9a-1bc9bU 1bc9d-1bc9eU 1bca0-1cbffU 1ccfd-1ccffU
1ceb4-1ceb9U 1ced1-1cedfU 1cef1-1cf4fU 1cfc4-1cfffU 1d0f6-1d0ffU 1d127-1d128U 1d165-1d169U
1d16d-1d182U 1d185-1d18bU 1d1aa-1d1adU 1d1eb-1d1ffU 1d242-1d244U 1d246-1d2bfU 1d2d4-1d2dfU
1d2f4-1d2ffU 1d357-1d35fU 1d379-1d3ffU 1d455U 1d49dU 1d4a0-1d4a1U 1d4a3-1d4a4U 1d4a7-1d4a8U 1d4adU
1d4baU 1d4bcU 1d4c4U 1d506U 1d50b-1d50cU 1d515U 1d51dU 1d53aU 1d53fU 1d545U 1d547-1d549U 1d551U
1d6a6-1d6a7U 1d7cc-1d7cdU 1da00-1da36U 1da3b-1da6cU 1da75U 1da84U 1da8c-1deffU 1df1f-1df24U
1df2b-1e02fU 1e06e-1e0ffU 1e12d-1e136U 1e13e-1e13fU 1e14a-1e14dU 1e150-1e28fU 1e2ae-1e2bfU
1e2ec-1e2efU 1e2fa-1e2feU 1e300-1e4cfU 1e4ec-1e4efU 1e4fa-1e5cfU 1e5ee-1e5efU 1e5fb-1e5feU
1e600-1e6bfU 1e6dfU 1e6e3U 1e6e6U 1e6ee-1e6efU 1e6f5-1e6fdU 1e700-1e7dfU 1e7e7U 1e7ecU 1e7efU
1e7ffU 1e8c5-1e8c6U 1e8d0-1e8ffU 1e944-1e94aU 1e94c-1e94fU 1e95a-1e95dU 1e960-1ec70U 1ecb5-1ed00U
1ed3e-1edffU 1ee04U 1ee20U 1ee23U 1ee25-1ee26U 1ee28U 1ee33U 1ee38U 1ee3aU 1ee3c-1ee41U
1ee43-1ee46U 1ee48U 1ee4aU 1ee4cU 1ee50U 1ee53U 1ee55-1ee56U 1ee58U 1ee5aU 1ee5cU 1ee5eU 1ee60U
1ee63U 1ee65-1ee66U 1ee6bU 1ee73U 1ee78U 1ee7dU 1ee7fU 1ee8aU 1ee9c-1eea0U 1eea4U 1eeaaU
1eebc-1eeefU 1eef2-1efffU 1f02c-1f02fU 1f094-1f09fU 1f0af-1f0b0U 1f0c0U 1f0d0U 1f0f6-1f0ffU
1f1ae-1f1e5U 1f203-1f20fU 1f23c-1f23fU 1f249-1f24fU 1f252-1f25fU 1f266-1f2ffU 1f6d9-1f6dbU
1f6ed-1f6efU 1f6fd-1f6ffU 1f7da-1f7dfU 1f7ec-1f7efU 1f7f1-1f7ffU 1f80c-1f80fU 1f848-1f84fU
1f85a-1f85fU 1f888-1f88fU 1f8ae-1f8afU 1f8bc-1f8bfU 1f8c2-1f8cfU 1f8d9-1f8ffU 1fa58-1fa5fU
1fa6e-1fa6fU 1fa7d-1fa7fU 1fa8b-1fa8dU 1fac7U 1fac9-1faccU 1fadd-1fadeU 1faeb-1faeeU 1faf9-1faffU
1fb93U 1fbfb-1ffffU 2a6e0-2a6ffU 2b81e-2b81fU 2ceae-2ceafU 2ebe1-2ebefU 2ee5e-2f7ffU 2fa1e-2ffffU
3134b-3134fU 3347a-10ffffU"

/-- Whether a character cannot be seen on its own. Of the ASCII characters these are the control
characters. -/
def isUnreadable (character : Char) : Bool :=
  if character.toNat < 0x7f then character.toNat < 0x20
  else (unreadableTable.find? character.toNat).isSome

end ResilientHttp.Text
