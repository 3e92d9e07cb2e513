import Stencil.Text.Charset.Single

/-!
# Standard charsets

The charsets of standards, which extend ASCII by the letters of one group of languages each.

## Main definitions

* `Charset.international` — of international standards.
* `Charset.national` — of national standards and of single languages.
-/

namespace Stencil.Charset

/-- The charsets of international standards. -/
def international : List Single := [
  ⟨"ascii",
    ["646", "ansi_x3.4_1968", "ansi_x3_4_1968", "ansi_x3.4_1986",
      "cp367", "csascii", "ibm367", "iso646_us",
      "iso_646.irv_1991", "iso_ir_6", "us", "us_ascii"],
    ["0-7F=0"]⟩,
  ⟨"latin_1",
    ["8859", "cp819", "csisolatin1", "ibm819",
      "iso8859", "iso8859_1", "iso_8859_1", "iso_8859_1_1987",
      "iso_ir_100", "l1", "latin", "latin1"],
    ["0-FF=0"]⟩,
  ⟨"iso8859_1", [], ["0-FF=0"]⟩,
  ⟨"iso8859_2", ["csisolatin2", "iso_8859_2", "iso_8859_2_1987", "iso_ir_101", "l2", "latin2"],
    ["0-A0=0 A1=104 A2=2D8 A3=141 A4=A4 A5=13D A6=15A A7-A8=A7 A9=160 AA=15E AB=164 AC=179",
      "AD=AD AE=17D AF=17B B0=B0 B1=105 B2=2DB B3=142 B4=B4 B5=13E B6=15B B7=2C7 B8=B8 B9=161",
      "BA=15F BB=165 BC=17A BD=2DD BE=17E BF=17C C0=154 C1-C2=C1 C3=102 C4=C4 C5=139 C6=106",
      "C7=C7 C8=10C C9=C9 CA=118 CB=CB CC=11A CD-CE=CD CF=10E D0=110 D1=143 D2=147 D3-D4=D3",
      "D5=150 D6-D7=D6 D8=158 D9=16E DA=DA DB=170 DC-DD=DC DE=162 DF=DF E0=155 E1-E2=E1 E3=103",
      "E4=E4 E5=13A E6=107 E7=E7 E8=10D E9=E9 EA=119 EB=EB EC=11B ED-EE=ED EF=10F F0=111 F1=144",
      "F2=148 F3-F4=F3 F5=151 F6-F7=F6 F8=159 F9=16F FA=FA FB=171 FC-FD=FC FE=163 FF=2D9"]⟩,
  ⟨"iso8859_3", ["csisolatin3", "iso_8859_3", "iso_8859_3_1988", "iso_ir_109", "l3", "latin3"],
    ["0-A0=0 A1=126 A2=2D8 A3-A4=A3 A6=124 A7-A8=A7 A9=130 AA=15E AB=11E AC=134 AD=AD AF=17B",
      "B0=B0 B1=127 B2-B5=B2 B6=125 B7-B8=B7 B9=131 BA=15F BB=11F BC=135 BD=BD BF=17C C0-C2=C0",
      "C4=C4 C5=10A C6=108 C7-CF=C7 D1-D4=D1 D5=120 D6-D7=D6 D8=11C D9-DC=D9 DD=16C DE=15C",
      "DF-E2=DF E4=E4 E5=10B E6=109 E7-EF=E7 F1-F4=F1 F5=121 F6-F7=F6 F8=11D F9-FC=F9 FD=16D",
      "FE=15D FF=2D9"]⟩,
  ⟨"iso8859_4", ["csisolatin4", "iso_8859_4", "iso_8859_4_1988", "iso_ir_110", "l4", "latin4"],
    ["0-A0=0 A1=104 A2=138 A3=156 A4=A4 A5=128 A6=13B A7-A8=A7 A9=160 AA=112 AB=122 AC=166",
      "AD=AD AE=17D AF-B0=AF B1=105 B2=2DB B3=157 B4=B4 B5=129 B6=13C B7=2C7 B8=B8 B9=161",
      "BA=113 BB=123 BC=167 BD=14A BE=17E BF=14B C0=100 C1-C6=C1 C7=12E C8=10C C9=C9 CA=118",
      "CB=CB CC=116 CD-CE=CD CF=12A D0=110 D1=145 D2=14C D3=136 D4-D8=D4 D9=172 DA-DC=DA DD=168",
      "DE=16A DF=DF E0=101 E1-E6=E1 E7=12F E8=10D E9=E9 EA=119 EB=EB EC=117 ED-EE=ED EF=12B",
      "F0=111 F1=146 F2=14D F3=137 F4-F8=F4 F9=173 FA-FC=FA FD=169 FE=16B FF=2D9"]⟩,
  ⟨"iso8859_5",
    ["csisolatincyrillic", "cyrillic", "iso_8859_5", "iso_8859_5_1988",
      "iso_ir_144"],
    ["0-A0=0 A1-AC=401 AD=AD AE-EF=40E F0=2116 F1-FC=451 FD=A7 FE-FF=45E"]⟩,
  ⟨"iso8859_6",
    ["arabic", "asmo_708", "csisolatinarabic", "ecma_114",
      "iso_8859_6", "iso_8859_6_1987", "iso_ir_127"],
    ["0-A0=0 A4=A4 AC=60C AD=AD BB=61B BF=61F C1-DA=621 E0-F2=640"]⟩,
  ⟨"iso8859_7",
    ["csisolatingreek", "ecma_118", "elot_928", "greek",
      "greek8", "iso_8859_7", "iso_8859_7_1987", "iso_ir_126"],
    ["0-A0=0 A1-A2=2018 A3=A3 A4=20AC A5=20AF A6-A9=A6 AA=37A AB-AD=AB AF=2015 B0-B3=B0",
      "B4-B6=384 B7=B7 B8-BA=388 BB=BB BC=38C BD=BD BE-D1=38E D3-FE=3A3"]⟩,
  ⟨"iso8859_8", ["csisolatinhebrew", "hebrew", "iso_8859_8", "iso_8859_8_1988", "iso_ir_138"],
    ["0-A0=0 A2-A9=A2 AA=D7 AB-B9=AB BA=F7 BB-BE=BB DF=2017 E0-FA=5D0 FD-FE=200E"]⟩,
  ⟨"iso8859_9", ["csisolatin5", "iso_8859_9", "iso_8859_9_1989", "iso_ir_148", "l5", "latin5"],
    ["0-CF=0 D0=11E D1-DC=D1 DD=130 DE=15E DF-EF=DF F0=11F F1-FC=F1 FD=131 FE=15F FF=FF"]⟩,
  ⟨"iso8859_10",
    ["csisolatin6", "iso_8859_10", "iso_8859_10_1992", "iso_ir_157",
      "l6", "latin6"],
    ["0-A0=0 A1=104 A2=112 A3=122 A4=12A A5=128 A6=136 A7=A7 A8=13B A9=110 AA=160 AB=166",
      "AC=17D AD=AD AE=16A AF=14A B0=B0 B1=105 B2=113 B3=123 B4=12B B5=129 B6=137 B7=B7 B8=13C",
      "B9=111 BA=161 BB=167 BC=17E BD=2015 BE=16B BF=14B C0=100 C1-C6=C1 C7=12E C8=10C C9=C9",
      "CA=118 CB=CB CC=116 CD-D0=CD D1=145 D2=14C D3-D6=D3 D7=168 D8=D8 D9=172 DA-DF=DA E0=101",
      "E1-E6=E1 E7=12F E8=10D E9=E9 EA=119 EB=EB EC=117 ED-F0=ED F1=146 F2=14D F3-F6=F3 F7=169",
      "F8=F8 F9=173 FA-FE=FA FF=138"]⟩,
  ⟨"iso8859_11", ["thai", "iso_8859_11", "iso_8859_11_2001"], ["0-A0=0 A1-DA=E01 DF-FB=E3F"]⟩,
  ⟨"iso8859_13", ["iso_8859_13", "l7", "latin7"],
    ["0-A0=0 A1=201D A2-A4=A2 A5=201E A6-A7=A6 A8=D8 A9=A9 AA=156 AB-AE=AB AF=C6 B0-B3=B0",
      "B4=201C B5-B7=B5 B8=F8 B9=B9 BA=157 BB-BE=BB BF=E6 C0=104 C1=12E C2=100 C3=106 C4-C5=C4",
      "C6=118 C7=112 C8=10C C9=C9 CA=179 CB=116 CC=122 CD=136 CE=12A CF=13B D0=160 D1=143",
      "D2=145 D3=D3 D4=14C D5-D7=D5 D8=172 D9=141 DA=15A DB=16A DC=DC DD=17B DE=17D DF=DF",
      "E0=105 E1=12F E2=101 E3=107 E4-E5=E4 E6=119 E7=113 E8=10D E9=E9 EA=17A EB=117 EC=123",
      "ED=137 EE=12B EF=13C F0=161 F1=144 F2=146 F3=F3 F4=14D F5-F7=F5 F8=173 F9=142 FA=15B",
      "FB=16B FC=FC FD=17C FE=17E FF=2019"]⟩,
  ⟨"iso8859_14",
    ["iso_8859_14", "iso_8859_14_1998", "iso_celtic", "iso_ir_199",
      "l8", "latin8"],
    ["0-A0=0 A1-A2=1E02 A3=A3 A4-A5=10A A6=1E0A A7=A7 A8=1E80 A9=A9 AA=1E82 AB=1E0B AC=1EF2",
      "AD-AE=AD AF=178 B0-B1=1E1E B2-B3=120 B4-B5=1E40 B6=B6 B7=1E56 B8=1E81 B9=1E57 BA=1E83",
      "BB=1E60 BC=1EF3 BD-BE=1E84 BF=1E61 C0-CF=C0 D0=174 D1-D6=D1 D7=1E6A D8-DD=D8 DE=176",
      "DF-EF=DF F0=175 F1-F6=F1 F7=1E6B F8-FD=F8 FE=177 FF=FF"]⟩,
  ⟨"iso8859_15", ["iso_8859_15", "l9", "latin9"],
    ["0-A3=0 A4=20AC A5=A5 A6=160 A7=A7 A8=161 A9-B3=A9 B4=17D B5-B7=B5 B8=17E B9-BB=B9",
      "BC-BD=152 BE=178 BF-FF=BF"]⟩,
  ⟨"iso8859_16", ["iso_8859_16", "iso_8859_16_2001", "iso_ir_226", "l10", "latin10"],
    ["0-A0=0 A1-A2=104 A3=141 A4=20AC A5=201E A6=160 A7=A7 A8=161 A9=A9 AA=218 AB=AB AC=179",
      "AD=AD AE-AF=17A B0-B1=B0 B2=10C B3=142 B4=17D B5=201D B6-B7=B6 B8=17E B9=10D BA=219",
      "BB=BB BC-BD=152 BE=178 BF=17C C0-C2=C0 C3=102 C4=C4 C5=106 C6-CF=C6 D0=110 D1=143",
      "D2-D4=D2 D5=150 D6=D6 D7=15A D8=170 D9-DC=D9 DD=118 DE=21A DF-E2=DF E3=103 E4=E4 E5=107",
      "E6-EF=E6 F0=111 F1=144 F2-F4=F2 F5=151 F6=F6 F7=15B F8=171 F9-FC=F9 FD=119 FE=21B FF=FF"]⟩]

/-- The charsets of national standards and of single languages. -/
def national : List Single := [
  ⟨"koi8_r", ["cskoi8r"],
    ["0-7F=0 80=2500 81=2502 82=250C 83=2510 84=2514 85=2518 86=251C 87=2524 88=252C 89=2534",
      "8A=253C 8B=2580 8C=2584 8D=2588 8E=258C 8F-92=2590 93=2320 94=25A0 95-96=2219 97=2248",
      "98-99=2264 9A=A0 9B=2321 9C=B0 9D=B2 9E=B7 9F=F7 A0-A2=2550 A3=451 A4-B2=2553 B3=401",
      "B4-BE=2562 BF=A9 C0=44E C1-C2=430 C3=446 C4-C5=434 C6=444 C7=433 C8=445 C9-D0=438 D1=44F",
      "D2-D5=440 D6=436 D7=432 D8=44C D9=44B DA=437 DB=448 DC=44D DD=449 DE=447 DF=44A E0=42E",
      "E1-E2=410 E3=426 E4-E5=414 E6=424 E7=413 E8=425 E9-F0=418 F1=42F F2-F5=420 F6=416 F7=412",
      "F8=42C F9=42B FA=417 FB=428 FC=42D FD=429 FE=427 FF=42A"]⟩,
  ⟨"koi8_t", [],
    ["0-7F=0 80=49B 81=493 82=201A 83=492 84=201E 85=2026 86-87=2020 89=2030 8A=4B3 8B=2039",
      "8C=4B2 8D=4B7 8E=4B6 90=49A 91-92=2018 93-94=201C 95=2022 96-97=2013 99=2122 9B=203A",
      "A1=4EF A2=4EE A3=451 A4=A4 A5=4E3 A6-A7=A6 AB-AE=AB B0-B2=B0 B3=401 B5=4E2 B6-B7=B6",
      "B9=2116 BB=BB BF=A9 C0=44E C1-C2=430 C3=446 C4-C5=434 C6=444 C7=433 C8=445 C9-D0=438",
      "D1=44F D2-D5=440 D6=436 D7=432 D8=44C D9=44B DA=437 DB=448 DC=44D DD=449 DE=447 DF=44A",
      "E0=42E E1-E2=410 E3=426 E4-E5=414 E6=424 E7=413 E8=425 E9-F0=418 F1=42F F2-F5=420 F6=416",
      "F7=412 F8=42C F9=42B FA=417 FB=428 FC=42D FD=429 FE=427 FF=42A"]⟩,
  ⟨"koi8_u", [],
    ["0-7F=0 80=2500 81=2502 82=250C 83=2510 84=2514 85=2518 86=251C 87=2524 88=252C 89=2534",
      "8A=253C 8B=2580 8C=2584 8D=2588 8E=258C 8F-92=2590 93=2320 94=25A0 95-96=2219 97=2248",
      "98-99=2264 9A=A0 9B=2321 9C=B0 9D=B2 9E=B7 9F=F7 A0-A2=2550 A3=451 A4=454 A5=2554",
      "A6-A7=456 A8-AC=2557 AD=491 AE-B2=255D B3=401 B4=404 B5=2563 B6-B7=406 B8-BC=2566 BD=490",
      "BE=256C BF=A9 C0=44E C1-C2=430 C3=446 C4-C5=434 C6=444 C7=433 C8=445 C9-D0=438 D1=44F",
      "D2-D5=440 D6=436 D7=432 D8=44C D9=44B DA=437 DB=448 DC=44D DD=449 DE=447 DF=44A E0=42E",
      "E1-E2=410 E3=426 E4-E5=414 E6=424 E7=413 E8=425 E9-F0=418 F1=42F F2-F5=420 F6=416 F7=412",
      "F8=42C F9=42B FA=417 FB=428 FC=42D FD=429 FE=427 FF=42A"]⟩,
  ⟨"kz1048", ["kz_1048", "rk1048", "strk1048_2002"],
    ["0-7F=0 80-81=402 82=201A 83=453 84=201E 85=2026 86-87=2020 88=20AC 89=2030 8A=409",
      "8B=2039 8C=40A 8D=49A 8E=4BA 8F=40F 90=452 91-92=2018 93-94=201C 95=2022 96-97=2013",
      "99=2122 9A=459 9B=203A 9C=45A 9D=49B 9E=4BB 9F=45F A0=A0 A1-A2=4B0 A3=4D8 A4=A4 A5=4E8",
      "A6-A7=A6 A8=401 A9=A9 AA=492 AB-AE=AB AF=4AE B0-B1=B0 B2=406 B3=456 B4=4E9 B5-B7=B5",
      "B8=451 B9=2116 BA=493 BB=BB BC=4D9 BD-BE=4A2 BF=4AF C0-FF=410"]⟩,
  ⟨"ptcp154", ["csptcp154", "pt154", "cp154", "cyrillic_asian"],
    ["0-7F=0 80=496 81=492 82=4EE 83=493 84=201E 85=2026 86=4B6 87=4AE 88=4B2 89=4AF 8A=4A0",
      "8B=4E2 8C=4A2 8D=49A 8E=4BA 8F=4B8 90=497 91-92=2018 93-94=201C 95=2022 96-97=2013",
      "98=4B3 99=4B7 9A=4A1 9B=4E3 9C=4A3 9D=49B 9E=4BB 9F=4B9 A0=A0 A1=40E A2=45E A3=408",
      "A4=4E8 A5=498 A6=4B0 A7=A7 A8=401 A9=A9 AA=4D8 AB-AC=AB AD=4EF AE=AE AF=49C B0=B0 B1=4B1",
      "B2=406 B3=456 B4=499 B5=4E9 B6-B7=B6 B8=451 B9=2116 BA=4D9 BB=BB BC=458 BD-BE=4AA BF=49D",
      "C0-FF=410"]⟩,
  ⟨"hp_roman8", ["roman8", "r8", "cp1051", "ibm1051"],
    ["0-A0=0 A1=C0 A2=C2 A3=C8 A4-A5=CA A6-A7=CE A8=B4 A9=2CB AA=2C6 AB=A8 AC=2DC AD=D9 AE=DB",
      "AF=20A4 B0=AF B1=DD B2=FD B3=B0 B4=C7 B5=E7 B6=D1 B7=F1 B8=A1 B9=BF BA=A4 BB=A3 BC=A5",
      "BD=A7 BE=192 BF=A2 C0=E2 C1=EA C2=F4 C3=FB C4=E1 C5=E9 C6=F3 C7=FA C8=E0 C9=E8 CA=F2",
      "CB=F9 CC=E4 CD=EB CE=F6 CF=FC D0=C5 D1=EE D2=D8 D3=C6 D4=E5 D5=ED D6=F8 D7=E6 D8=C4",
      "D9=EC DA=D6 DB=DC DC=C9 DD=EF DE=DF DF=D4 E0=C1 E1=C3 E2=E3 E3=D0 E4=F0 E5=CD E6=CC",
      "E7=D3 E8=D2 E9=D5 EA=F5 EB-EC=160 ED=DA EE=178 EF=FF F0=DE F1=FE F2=B7 F3-F4=B5 F5=BE",
      "F6=2014 F7-F8=BC F9=AA FA=BA FB=AB FC=25A0 FD=BB FE=B1"]⟩,
  ⟨"tis_620", ["tis620", "tis_620_0", "tis_620_2529_0", "tis_620_2529_1", "iso_ir_166"],
    ["0-9F=0 A1-DA=E01 DF-FB=E3F"]⟩,
  ⟨"palmos", [],
    ["0-7F=0 80=20AC 81=81 82=201A 83=192 84=201E 85=2026 86-87=2020 88=2C6 89=2030 8A=160",
      "8B=2039 8C=152 8D=2666 8E=2663 8F=2665 90=2660 91-92=2018 93-94=201C 95=2022 96-97=2013",
      "98=2DC 99=2122 9A=161 9B=9B 9C=153 9D-9E=9D 9F=178 A0-FF=A0"]⟩,
  ⟨"charmap", [], ["0-FF=0"]⟩]

end Stencil.Charset
