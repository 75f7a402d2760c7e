import Retrieval.Text.CodeTable

/-!
# Numerals

`isNumeral` : the general categories Nd, Nl and No.
-/

namespace Retrieval.Text

def numeralRows : List Nat :=
  [0x000030_00003A_0000B2_0000B4_0000B9_0000BA_0000BC_0000BF_000660_00066A_0006F0_0006FA,
   0x0007C0_0007CA_000966_000970_0009E6_0009F0_0009F4_0009FA_000A66_000A70_000AE6_000AF0,
   0x000B66_000B70_000B72_000B78_000BE6_000BF3_000C66_000C70_000C78_000C7F_000CE6_000CF0,
   0x000D58_000D5F_000D66_000D79_000DE6_000DF0_000E50_000E5A_000ED0_000EDA_000F20_000F34,
   0x001040_00104A_001090_00109A_001369_00137D_0016EE_0016F1_0017E0_0017EA_0017F0_0017FA,
   0x001810_00181A_001946_001950_0019D0_0019DB_001A80_001A8A_001A90_001A9A_001B50_001B5A,
   0x001BB0_001BBA_001C40_001C4A_001C50_001C5A_002070_002071_002074_00207A_002080_00208A,
   0x002150_002183_002185_00218A_002460_00249C_0024EA_002500_002776_002794_002CFD_002CFE,
   0x003007_003008_003021_00302A_003038_00303B_003192_003196_003220_00322A_003248_003250,
   0x003251_003260_003280_00328A_0032B1_0032C0_00A620_00A62A_00A6E6_00A6F0_00A830_00A836,
   0x00A8D0_00A8DA_00A900_00A90A_00A9D0_00A9DA_00A9F0_00A9FA_00AA50_00AA5A_00ABF0_00ABFA,
   0x00FF10_00FF1A_010107_010134_010140_010179_01018A_01018C_0102E1_0102FC_010320_010324,
   0x010341_010342_01034A_01034B_0103D1_0103D6_0104A0_0104AA_010858_010860_010879_010880,
   0x0108A7_0108B0_0108FB_010900_010916_01091C_0109BC_0109BE_0109C0_0109D0_0109D2_010A00,
   0x010A40_010A49_010A7D_010A7F_010A9D_010AA0_010AEB_010AF0_010B58_010B60_010B78_010B80,
   0x010BA9_010BB0_010CFA_010D00_010D30_010D3A_010D40_010D4A_010E60_010E7F_010F1D_010F27,
   0x010F51_010F55_010FC5_010FCC_011052_011070_0110F0_0110FA_011136_011140_0111D0_0111DA,
   0x0111E1_0111F5_0112F0_0112FA_011450_01145A_0114D0_0114DA_011650_01165A_0116C0_0116CA,
   0x0116D0_0116E4_011730_01173C_0118E0_0118F3_011950_01195A_011BF0_011BFA_011C50_011C6D,
   0x011D50_011D5A_011DA0_011DAA_011F50_011F5A_011FC0_011FD5_012400_01246F_016130_01613A,
   0x016A60_016A6A_016AC0_016ACA_016B50_016B5A_016B5B_016B62_016D70_016D7A_016E80_016E97,
   0x01CCF0_01CCFA_01D2C0_01D2D4_01D2E0_01D2F4_01D360_01D379_01D7CE_01D800_01E140_01E14A,
   0x01E2F0_01E2FA_01E4F0_01E4FA_01E5F1_01E5FB_01E8C7_01E8D0_01E950_01E95A_01EC71_01ECAC,
   0x01ECAD_01ECB0_01ECB1_01ECB5_01ED01_01ED2E_01ED2F_01ED3E_01F100_01F10D_01FBF0_01FBFA]

def numerals : CodeSet := .ofRows numeralRows

/-- A digit, a letter number or any other number character. -/
def isNumeral (c : Char) : Bool := numerals.contains c

end Retrieval.Text
