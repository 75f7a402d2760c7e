import Retrieval.Text.CodeTable

/-!
# The table of characters that have no glyph of their own

`unprintable` : controls, format characters, separators other than the space, private use and unassigned
code points, and the marks that extend the character before them.
-/

namespace Retrieval.Text

/-- Where the characters without a glyph begin and end. -/
def unprintableRows : List Nat :=
  [0x000000_000020_00007F_0000A1_0000AD_0000AE_000300_000370_000378_00037A_000380_000384,
   0x00038B_00038C_00038D_00038E_0003A2_0003A3_000483_00048A_000530_000531_000557_000559,
   0x00058B_00058D_000590_0005BE_0005BF_0005C0_0005C1_0005C3_0005C4_0005C6_0005C7_0005D0,
   0x0005EB_0005EF_0005F5_000606_000610_00061B_00061C_00061D_00064B_000660_000670_000671,
   0x0006D6_0006DE_0006DF_0006E5_0006E7_0006E9_0006EA_0006EE_00070E_000710_000711_000712,
   0x000730_00074D_0007A6_0007B1_0007B2_0007C0_0007EB_0007F4_0007FB_0007FE_000816_00081A,
   0x00081B_000824_000825_000828_000829_000830_00083F_000840_000859_00085E_00085F_000860,
   0x00086B_000870_00088F_0008A0_0008CA_000903_00093A_00093B_00093C_00093D_000941_000949,
   0x00094D_00094E_000951_000958_000962_000964_000981_000982_000984_000985_00098D_00098F,
   0x000991_000993_0009A9_0009AA_0009B1_0009B2_0009B3_0009B6_0009BA_0009BD_0009BE_0009BF,
   0x0009C1_0009C7_0009C9_0009CB_0009CD_0009CE_0009CF_0009DC_0009DE_0009DF_0009E2_0009E6,
   0x0009FE_000A03_000A04_000A05_000A0B_000A0F_000A11_000A13_000A29_000A2A_000A31_000A32,
   0x000A34_000A35_000A37_000A38_000A3A_000A3E_000A41_000A59_000A5D_000A5E_000A5F_000A66,
   0x000A70_000A72_000A75_000A76_000A77_000A83_000A84_000A85_000A8E_000A8F_000A92_000A93,
   0x000AA9_000AAA_000AB1_000AB2_000AB4_000AB5_000ABA_000ABD_000AC1_000AC9_000ACA_000ACB,
   0x000ACD_000AD0_000AD1_000AE0_000AE2_000AE6_000AF2_000AF9_000AFA_000B02_000B04_000B05,
   0x000B0D_000B0F_000B11_000B13_000B29_000B2A_000B31_000B32_000B34_000B35_000B3A_000B3D,
   0x000B3E_000B40_000B41_000B47_000B49_000B4B_000B4D_000B5C_000B5E_000B5F_000B62_000B66,
   0x000B78_000B83_000B84_000B85_000B8B_000B8E_000B91_000B92_000B96_000B99_000B9B_000B9C,
   0x000B9D_000B9E_000BA0_000BA3_000BA5_000BA8_000BAB_000BAE_000BBA_000BBF_000BC0_000BC1,
   0x000BC3_000BC6_000BC9_000BCA_000BCD_000BD0_000BD1_000BE6_000BFB_000C01_000C04_000C05,
   0x000C0D_000C0E_000C11_000C12_000C29_000C2A_000C3A_000C3D_000C3E_000C41_000C45_000C58,
   0x000C5B_000C5D_000C5E_000C60_000C62_000C66_000C70_000C77_000C81_000C82_000C8D_000C8E,
   0x000C91_000C92_000CA9_000CAA_000CB4_000CB5_000CBA_000CBD_000CBF_000CC1_000CC2_000CC3,
   0x000CC5_000CDD_000CDF_000CE0_000CE2_000CE6_000CF0_000CF1_000CF4_000D02_000D0D_000D0E,
   0x000D11_000D12_000D3B_000D3D_000D3E_000D3F_000D41_000D46_000D49_000D4A_000D4D_000D4E,
   0x000D50_000D54_000D57_000D58_000D62_000D66_000D80_000D82_000D84_000D85_000D97_000D9A,
   0x000DB2_000DB3_000DBC_000DBD_000DBE_000DC0_000DC7_000DD0_000DD2_000DD8_000DDF_000DE6,
   0x000DF0_000DF2_000DF5_000E01_000E31_000E32_000E34_000E3F_000E47_000E4F_000E5C_000E81,
   0x000E83_000E84_000E85_000E86_000E8B_000E8C_000EA4_000EA5_000EA6_000EA7_000EB1_000EB2,
   0x000EB4_000EBD_000EBE_000EC0_000EC5_000EC6_000EC7_000ED0_000EDA_000EDC_000EE0_000F00,
   0x000F18_000F1A_000F35_000F36_000F37_000F38_000F39_000F3A_000F48_000F49_000F6D_000F7F,
   0x000F80_000F85_000F86_000F88_000F8D_000FBE_000FC6_000FC7_000FCD_000FCE_000FDB_001000,
   0x00102D_001031_001032_001038_001039_00103B_00103D_00103F_001058_00105A_00105E_001061,
   0x001071_001075_001082_001083_001085_001087_00108D_00108E_00109D_00109E_0010C6_0010C7,
   0x0010C8_0010CD_0010CE_0010D0_001249_00124A_00124E_001250_001257_001258_001259_00125A,
   0x00125E_001260_001289_00128A_00128E_001290_0012B1_0012B2_0012B6_0012B8_0012BF_0012C0,
   0x0012C1_0012C2_0012C6_0012C8_0012D7_0012D8_001311_001312_001316_001318_00135B_001360,
   0x00137D_001380_00139A_0013A0_0013F6_0013F8_0013FE_001400_001680_001681_00169D_0016A0,
   0x0016F9_001700_001712_00171F_001732_001735_001737_001740_001752_001760_00176D_00176E,
   0x001771_001780_0017B4_0017B6_0017B7_0017BE_0017C6_0017C7_0017C9_0017D4_0017DD_0017E0,
   0x0017EA_0017F0_0017FA_001800_00180B_001810_00181A_001820_001879_001880_001885_001887,
   0x0018A9_0018AA_0018AB_0018B0_0018F6_001900_00191F_001923_001927_001929_00192C_001930,
   0x001932_001933_001939_001940_001941_001944_00196E_001970_001975_001980_0019AC_0019B0,
   0x0019CA_0019D0_0019DB_0019DE_001A17_001A19_001A1B_001A1E_001A56_001A57_001A58_001A61,
   0x001A62_001A63_001A65_001A6D_001A73_001A80_001A8A_001A90_001A9A_001AA0_001AAE_001B04,
   0x001B34_001B3E_001B42_001B45_001B4D_001B4E_001B6B_001B74_001B80_001B82_001BA2_001BA6,
   0x001BA8_001BAE_001BE6_001BE7_001BE8_001BEA_001BED_001BEE_001BEF_001BFC_001C2C_001C34,
   0x001C36_001C3B_001C4A_001C4D_001C8B_001C90_001CBB_001CBD_001CC8_001CD3_001CD4_001CE1,
   0x001CE2_001CE9_001CED_001CEE_001CF4_001CF5_001CF8_001CFA_001CFB_001D00_001DC0_001E00,
   0x001F16_001F18_001F1E_001F20_001F46_001F48_001F4E_001F50_001F58_001F59_001F5A_001F5B,
   0x001F5C_001F5D_001F5E_001F5F_001F7E_001F80_001FB5_001FB6_001FC5_001FC6_001FD4_001FD6,
   0x001FDC_001FDD_001FF0_001FF2_001FF5_001FF6_001FFF_002010_002028_002030_00205F_002070,
   0x002072_002074_00208F_002090_00209D_0020A0_0020C1_002100_00218C_002190_00242A_002440,
   0x00244B_002460_002B74_002B76_002B96_002B97_002CEF_002CF2_002CF4_002CF9_002D26_002D27,
   0x002D28_002D2D_002D2E_002D30_002D68_002D6F_002D71_002D80_002D97_002DA0_002DA7_002DA8,
   0x002DAF_002DB0_002DB7_002DB8_002DBF_002DC0_002DC7_002DC8_002DCF_002DD0_002DD7_002DD8,
   0x002DDF_002E00_002E5E_002E80_002E9A_002E9B_002EF4_002F00_002FD6_002FF0_003000_003001,
   0x00302A_003030_003040_003041_003097_00309B_003100_003105_003130_003131_00318F_003190,
   0x0031E6_0031EF_00321F_003220_00A48D_00A490_00A4C7_00A4D0_00A62C_00A640_00A66F_00A673,
   0x00A674_00A67E_00A69E_00A6A0_00A6F0_00A6F2_00A6F8_00A700_00A7CE_00A7D0_00A7D2_00A7D3,
   0x00A7D4_00A7D5_00A7DD_00A7F2_00A802_00A803_00A806_00A807_00A80B_00A80C_00A825_00A827,
   0x00A82C_00A830_00A83A_00A840_00A878_00A880_00A8C4_00A8CE_00A8DA_00A8F2_00A8FF_00A900,
   0x00A926_00A92E_00A947_00A952_00A953_00A95F_00A97D_00A983_00A9B3_00A9B4_00A9B6_00A9BA,
   0x00A9BC_00A9BE_00A9C0_00A9C1_00A9CE_00A9CF_00A9DA_00A9DE_00A9E5_00A9E6_00A9FF_00AA00,
   0x00AA29_00AA2F_00AA31_00AA33_00AA35_00AA40_00AA43_00AA44_00AA4C_00AA4D_00AA4E_00AA50,
   0x00AA5A_00AA5C_00AA7C_00AA7D_00AAB0_00AAB1_00AAB2_00AAB5_00AAB7_00AAB9_00AABE_00AAC0,
   0x00AAC1_00AAC2_00AAC3_00AADB_00AAEC_00AAEE_00AAF6_00AB01_00AB07_00AB09_00AB0F_00AB11,
   0x00AB17_00AB20_00AB27_00AB28_00AB2F_00AB30_00AB6C_00AB70_00ABE5_00ABE6_00ABE8_00ABE9,
   0x00ABED_00ABF0_00ABFA_00AC00_00D7A4_00D7B0_00D7C7_00D7CB_00D7FC_00F900_00FA6E_00FA70,
   0x00FADA_00FB00_00FB07_00FB13_00FB18_00FB1D_00FB1E_00FB1F_00FB37_00FB38_00FB3D_00FB3E,
   0x00FB3F_00FB40_00FB42_00FB43_00FB45_00FB46_00FBC3_00FBD3_00FD90_00FD92_00FDC8_00FDCF,
   0x00FDD0_00FDF0_00FE00_00FE10_00FE1A_00FE30_00FE53_00FE54_00FE67_00FE68_00FE6C_00FE70,
   0x00FE75_00FE76_00FEFD_00FF01_00FF9E_00FFA0_00FFBF_00FFC2_00FFC8_00FFCA_00FFD0_00FFD2,
   0x00FFD8_00FFDA_00FFDD_00FFE0_00FFE7_00FFE8_00FFEF_00FFFC_00FFFE_010000_01000C_01000D,
   0x010027_010028_01003B_01003C_01003E_01003F_01004E_010050_01005E_010080_0100FB_010100,
   0x010103_010107_010134_010137_01018F_010190_01019D_0101A0_0101A1_0101D0_0101FD_010280,
   0x01029D_0102A0_0102D1_0102E1_0102FC_010300_010324_01032D_01034B_010350_010376_010380,
   0x01039E_01039F_0103C4_0103C8_0103D6_010400_01049E_0104A0_0104AA_0104B0_0104D4_0104D8,
   0x0104FC_010500_010528_010530_010564_01056F_01057B_01057C_01058B_01058C_010593_010594,
   0x010596_010597_0105A2_0105A3_0105B2_0105B3_0105BA_0105BB_0105BD_0105C0_0105F4_010600,
   0x010737_010740_010756_010760_010768_010780_010786_010787_0107B1_0107B2_0107BB_010800,
   0x010806_010808_010809_01080A_010836_010837_010839_01083C_01083D_01083F_010856_010857,
   0x01089F_0108A7_0108B0_0108E0_0108F3_0108F4_0108F6_0108FB_01091C_01091F_01093A_01093F,
   0x010940_010980_0109B8_0109BC_0109D0_0109D2_010A01_010A10_010A14_010A15_010A18_010A19,
   0x010A36_010A40_010A49_010A50_010A59_010A60_010AA0_010AC0_010AE5_010AEB_010AF7_010B00,
   0x010B36_010B39_010B56_010B58_010B73_010B78_010B92_010B99_010B9D_010BA9_010BB0_010C00,
   0x010C49_010C80_010CB3_010CC0_010CF3_010CFA_010D24_010D30_010D3A_010D40_010D66_010D6E,
   0x010D86_010D8E_010D90_010E60_010E7F_010E80_010EAA_010EAD_010EAE_010EB0_010EB2_010EC2,
   0x010EC5_010F00_010F28_010F30_010F46_010F51_010F5A_010F70_010F82_010F86_010F8A_010FB0,
   0x010FCC_010FE0_010FF7_011000_011001_011002_011038_011047_01104E_011052_011070_011071,
   0x011073_011075_011076_011082_0110B3_0110B7_0110B9_0110BB_0110BD_0110BE_0110C2_0110D0,
   0x0110E9_0110F0_0110FA_011103_011127_01112C_01112D_011136_011148_011150_011173_011174,
   0x011177_011182_0111B6_0111BF_0111C0_0111C1_0111C9_0111CD_0111CF_0111D0_0111E0_0111E1,
   0x0111F5_011200_011212_011213_01122F_011232_011234_011238_01123E_01123F_011241_011280,
   0x011287_011288_011289_01128A_01128E_01128F_01129E_01129F_0112AA_0112B0_0112DF_0112E0,
   0x0112E3_0112F0_0112FA_011302_011304_011305_01130D_01130F_011311_011313_011329_01132A,
   0x011331_011332_011334_011335_01133A_01133D_01133E_01133F_011340_011341_011345_011347,
   0x011349_01134B_01134D_011350_011351_01135D_011364_011380_01138A_01138B_01138C_01138E,
   0x01138F_011390_0113B6_0113B7_0113B8_0113B9_0113BB_0113CA_0113CB_0113CC_0113CE_0113D1,
   0x0113D2_0113D3_0113D6_0113D7_0113D9_011400_011438_011440_011442_011445_011446_011447,
   0x01145C_01145D_01145E_01145F_011462_011480_0114B0_0114B1_0114B3_0114B9_0114BA_0114BB,
   0x0114BD_0114BE_0114BF_0114C1_0114C2_0114C4_0114C8_0114D0_0114DA_011580_0115AF_0115B0,
   0x0115B2_0115B8_0115BC_0115BE_0115BF_0115C1_0115DC_011600_011633_01163B_01163D_01163E,
   0x01163F_011641_011645_011650_01165A_011660_01166D_011680_0116AB_0116AC_0116AD_0116AE,
   0x0116B0_0116B8_0116BA_0116C0_0116CA_0116D0_0116E4_011700_01171B_01171E_01171F_011720,
   0x011722_011726_011727_011730_011747_011800_01182F_011838_011839_01183B_01183C_0118A0,
   0x0118F3_0118FF_011907_011909_01190A_01190C_011914_011915_011917_011918_011930_011931,
   0x011936_011937_011939_01193F_011943_011944_011947_011950_01195A_0119A0_0119A8_0119AA,
   0x0119D4_0119DC_0119E0_0119E1_0119E5_011A00_011A01_011A0B_011A33_011A39_011A3B_011A3F,
   0x011A47_011A50_011A51_011A57_011A59_011A5C_011A8A_011A97_011A98_011A9A_011AA3_011AB0,
   0x011AF9_011B00_011B0A_011BC0_011BE2_011BF0_011BFA_011C00_011C09_011C0A_011C30_011C3E,
   0x011C3F_011C40_011C46_011C50_011C6D_011C70_011C90_011CA9_011CAA_011CB1_011CB2_011CB4,
   0x011CB5_011D00_011D07_011D08_011D0A_011D0B_011D31_011D46_011D47_011D50_011D5A_011D60,
   0x011D66_011D67_011D69_011D6A_011D8F_011D93_011D95_011D96_011D97_011D98_011D99_011DA0,
   0x011DAA_011EE0_011EF3_011EF5_011EF9_011F02_011F11_011F12_011F36_011F3E_011F40_011F43,
   0x011F5A_011FB0_011FB1_011FC0_011FF2_011FFF_01239A_012400_01246F_012470_012475_012480,
   0x012544_012F90_012FF3_013000_013430_013441_013447_013460_0143FB_014400_014647_016100,
   0x01611E_01612A_01612D_016130_01613A_016800_016A39_016A40_016A5F_016A60_016A6A_016A6E,
   0x016ABF_016AC0_016ACA_016AD0_016AEE_016AF5_016AF6_016B00_016B30_016B37_016B46_016B50,
   0x016B5A_016B5B_016B62_016B63_016B78_016B7D_016B90_016D40_016D7A_016E40_016E9B_016F00,
   0x016F4B_016F50_016F88_016F93_016FA0_016FE0_016FE4_017000_0187F8_018800_018CD6_018CFF,
   0x018D09_01AFF0_01AFF4_01AFF5_01AFFC_01AFFD_01AFFF_01B000_01B123_01B132_01B133_01B150,
   0x01B153_01B155_01B156_01B164_01B168_01B170_01B2FC_01BC00_01BC6B_01BC70_01BC7D_01BC80,
   0x01BC89_01BC90_01BC9A_01BC9C_01BC9D_01BC9F_01BCA0_01CC00_01CCFA_01CD00_01CEB4_01CF50,
   0x01CFC4_01D000_01D0F6_01D100_01D127_01D129_01D165_01D16A_01D16D_01D183_01D185_01D18C,
   0x01D1AA_01D1AE_01D1EB_01D200_01D242_01D245_01D246_01D2C0_01D2D4_01D2E0_01D2F4_01D300,
   0x01D357_01D360_01D379_01D400_01D455_01D456_01D49D_01D49E_01D4A0_01D4A2_01D4A3_01D4A5,
   0x01D4A7_01D4A9_01D4AD_01D4AE_01D4BA_01D4BB_01D4BC_01D4BD_01D4C4_01D4C5_01D506_01D507,
   0x01D50B_01D50D_01D515_01D516_01D51D_01D51E_01D53A_01D53B_01D53F_01D540_01D545_01D546,
   0x01D547_01D54A_01D551_01D552_01D6A6_01D6A8_01D7CC_01D7CE_01DA00_01DA37_01DA3B_01DA6D,
   0x01DA75_01DA76_01DA84_01DA85_01DA8C_01DF00_01DF1F_01DF25_01DF2B_01E030_01E06E_01E100,
   0x01E12D_01E137_01E13E_01E140_01E14A_01E14E_01E150_01E290_01E2AE_01E2C0_01E2EC_01E2F0,
   0x01E2FA_01E2FF_01E300_01E4D0_01E4EC_01E4F0_01E4FA_01E5D0_01E5EE_01E5F0_01E5FB_01E5FF,
   0x01E600_01E7E0_01E7E7_01E7E8_01E7EC_01E7ED_01E7EF_01E7F0_01E7FF_01E800_01E8C5_01E8C7,
   0x01E8D0_01E900_01E944_01E94B_01E94C_01E950_01E95A_01E95E_01E960_01EC71_01ECB5_01ED01,
   0x01ED3E_01EE00_01EE04_01EE05_01EE20_01EE21_01EE23_01EE24_01EE25_01EE27_01EE28_01EE29,
   0x01EE33_01EE34_01EE38_01EE39_01EE3A_01EE3B_01EE3C_01EE42_01EE43_01EE47_01EE48_01EE49,
   0x01EE4A_01EE4B_01EE4C_01EE4D_01EE50_01EE51_01EE53_01EE54_01EE55_01EE57_01EE58_01EE59,
   0x01EE5A_01EE5B_01EE5C_01EE5D_01EE5E_01EE5F_01EE60_01EE61_01EE63_01EE64_01EE65_01EE67,
   0x01EE6B_01EE6C_01EE73_01EE74_01EE78_01EE79_01EE7D_01EE7E_01EE7F_01EE80_01EE8A_01EE8B,
   0x01EE9C_01EEA1_01EEA4_01EEA5_01EEAA_01EEAB_01EEBC_01EEF0_01EEF2_01F000_01F02C_01F030,
   0x01F094_01F0A0_01F0AF_01F0B1_01F0C0_01F0C1_01F0D0_01F0D1_01F0F6_01F100_01F1AE_01F1E6,
   0x01F203_01F210_01F23C_01F240_01F249_01F250_01F252_01F260_01F266_01F300_01F6D8_01F6DC,
   0x01F6ED_01F6F0_01F6FD_01F700_01F777_01F77B_01F7DA_01F7E0_01F7EC_01F7F0_01F7F1_01F800,
   0x01F80C_01F810_01F848_01F850_01F85A_01F860_01F888_01F890_01F8AE_01F8B0_01F8BC_01F8C0,
   0x01F8C2_01F900_01FA54_01FA60_01FA6E_01FA70_01FA7D_01FA80_01FA8A_01FA8F_01FAC7_01FACE,
   0x01FADD_01FADF_01FAEA_01FAF0_01FAF9_01FB00_01FB93_01FB94_01FBFA_020000_02A6E0_02A700,
   0x02B73A_02B740_02B81E_02B820_02CEA2_02CEB0_02EBE1_02EBF0_02EE5E_02F800_02FA1E_030000,
   0x03134B_031350_0323B0_110000_FFFFFF_FFFFFF_FFFFFF_FFFFFF_FFFFFF_FFFFFF_FFFFFF_FFFFFF]

def unprintable : CodeSet := .ofRows unprintableRows

end Retrieval.Text
